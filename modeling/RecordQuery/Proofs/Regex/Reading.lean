import RecordQuery.Proofs.Pattern.Documented
import RecordQuery.Regex.Engine

/-!
# Reading documented parts

An expression put together from documented parts is read back part by part: an escaped text as its
characters, any other part as one term. Nothing in it is at fault.
-/

namespace RecordQuery.Regex

open Pattern (Part spelling)

namespace Reader

variable {r : Reader} {c : Char} {rest : List Char}

theorem run_of_step {next : Reader} {after : List Char} (hv : r.flags.verbose = false)
    (h : r.step c rest = .ok (next, after)) (fuel : Nat) :
    r.run (fuel + 1) (c :: rest) = next.run fuel after := by
  simp only [run, hv, skipBlank_false, h]

theorem run_nil (fuel : Nat) : r.run fuel [] = r.finish := by
  cases fuel with
  | zero => rfl
  | succ fuel => cases hv : r.flags.verbose <;> simp [run, hv, skipBlank, afterBlank]

theorem step_literal (h : Escape.isMeta c = false) :
    r.step c rest = .ok (r.push (.atom (.literal ⟨c, false⟩) r.flags), rest) := by
  simp only [Escape.isMeta, Escape.metaCharacters, List.contains_cons, Bool.or_eq_false_iff,
    beq_eq_false_iff_ne] at h
  unfold step
  split <;> simp_all

theorem step_escaped (h : Escape.isMeta c = true) :
    r.step '\\' (c :: rest) = .ok (r.push (.atom (.literal ⟨c, false⟩) r.flags), rest) := by
  simp [step, Escape.read, Escape.readLetter, Escape.isPlain, h, Except.map]

theorem step_dot (rest : List Char) :
    r.step '.' rest = .ok (r.push (.atom .dot r.flags), rest) := rfl

theorem skipLazy_eq (h : rest.head? ≠ some '?') : skipLazy rest = rest := by
  unfold skipLazy
  split
  · simp at h
  · rfl

theorem step_star {a : Atom} {f : Flags} (h : rest.head? ≠ some '?') :
    (r.push (.atom a f)).step '*' rest =
      .ok (r.push (.repetition 0 none (.atom a f)), rest) := by
  simp [step, readMark, repeatLast, push, skipLazy_eq h, Except.map]

theorem step_caret (rest : List Char) :
    r.step '^' rest = .ok (r.push (.atom (.anchor .lineStart) r.flags), rest) := rfl

theorem step_dollar (rest : List Char) :
    r.step '$' rest = .ok (r.push (.atom (.anchor .lineEnd) r.flags), rest) := rfl

end Reader

/-! ### Terms -/

def flagsOf (dotAll : Bool) : Flags := { Flags.initial with dotAll }

def literalTerm (dotAll : Bool) (c : Char) : Term := .atom (.literal ⟨c, false⟩) (flagsOf dotAll)

def termsOf (dotAll : Bool) : List Part → List Term
  | [] => []
  | .dotAll :: parts => .switch :: termsOf true parts
  | .start :: parts => .atom (.anchor .lineStart) (flagsOf dotAll) :: termsOf dotAll parts
  | .stop :: parts => .atom (.anchor .lineEnd) (flagsOf dotAll) :: termsOf dotAll parts
  | .dot :: parts => .atom .dot (flagsOf dotAll) :: termsOf dotAll parts
  | .dots :: parts => .repetition 0 none (.atom .dot (flagsOf dotAll)) :: termsOf dotAll parts
  | .text s :: parts => s.toList.map (literalTerm dotAll) ++ termsOf dotAll parts

def codes : Part → List Char
  | .dotAll => ['(', '?', 's', ')']
  | .start => ['^']
  | .stop => ['$']
  | .dot => ['.']
  | .dots => ['.', '*']
  | .text s => s.toList.flatMap Escape.protect

theorem toList_spelling_cons (part : Part) (parts : List Part) :
    (spelling (part :: parts)).toList = codes part ++ (spelling parts).toList := by
  have hpart : part.spelling.toList = codes part := by
    cases part with
    | text s => exact String.toList_ofList
    | _ => rfl
  rw [spelling, String.toList_append, hpart]

theorem head?_spelling (parts : List Part) : (spelling parts).toList.head? ≠ some '?' := by
  induction parts with
  | nil => decide
  | cons part parts ih =>
    rw [toList_spelling_cons]
    cases part with
    | text s =>
      rw [codes]
      cases s.toList with
      | nil => exact ih
      | cons c rest =>
        rw [List.flatMap_cons, Escape.protect]
        split
        · simp
        · rename_i hmeta
          have hne : c ≠ '?' := fun heq => hmeta (heq ▸ by decide)
          simpa using hne
    | _ => simp [codes]

/-! ### Reading -/

namespace Reader

variable {r next : Reader} {c : Char} {s rest : List Char} {t : Term} {ts us : List Term}

/-- The reader takes the terms from a text, in no more steps than there are characters. -/
def Takes (r : Reader) (s : List Char) (ts : List Term) : Prop :=
  ∃ n, n ≤ s.length ∧
    ∀ left, r.run (left + n) s = finish { r with items := ts.reverse ++ r.items }

theorem takes_nil : r.Takes [] [] := ⟨0, Nat.le_refl 0, fun left => run_nil left⟩

theorem Takes.step (h : next.Takes rest ts) (hv : r.flags.verbose = false)
    (hstep : r.step c s = .ok (next, rest)) (hlength : rest.length ≤ s.length)
    (hnext : next = { r.push t with flags := next.flags }) : r.Takes (c :: s) (t :: ts) := by
  obtain ⟨n, hn, hrun⟩ := h
  refine ⟨n + 1, by rw [List.length_cons]; omega, fun left => ?_⟩
  rw [← Nat.add_assoc, run_of_step hv hstep, hrun, hnext]
  simp [push, finish, content]

/-- The dot is a term of its own until the star is read. -/
theorem Takes.dots (h : (r.push (.repetition 0 none (.atom .dot r.flags))).Takes s ts)
    (hv : r.flags.verbose = false) (hs : s.head? ≠ some '?') :
    r.Takes ('.' :: '*' :: s) (.repetition 0 none (.atom .dot r.flags) :: ts) := by
  obtain ⟨n, hn, hrun⟩ := h
  refine ⟨n + 2, by simp only [List.length_cons]; omega, fun left => ?_⟩
  have hv' : (r.push (.atom .dot r.flags)).flags.verbose = false := hv
  rw [← Nat.add_assoc, run_of_step hv (step_dot _), run_of_step hv' (step_star hs), hrun]
  simp [push]

end Reader

variable {dotAll : Bool}

theorem takes_literals (cs : List Char) {r : Reader} (hr : r.flags = flagsOf dotAll)
    {s : List Char} {ts : List Term}
    (h : ∀ r' : Reader, r'.flags = flagsOf dotAll → r'.Takes s ts) :
    r.Takes (cs.flatMap Escape.protect ++ s) (cs.map (literalTerm dotAll) ++ ts) := by
  induction cs generalizing r with
  | nil => exact h r hr
  | cons c cs ih =>
    have hv : r.flags.verbose = false := by rw [hr]; rfl
    have hrest : (r.push (.atom (.literal ⟨c, false⟩) r.flags)).Takes
        (cs.flatMap Escape.protect ++ s) (cs.map (literalTerm dotAll) ++ ts) := ih hr
    rw [List.flatMap_cons, List.append_assoc, List.map_cons, List.cons_append, literalTerm, ← hr,
      Escape.protect]
    cases hmeta : Escape.isMeta c with
    | true => exact hrest.step hv (Reader.step_escaped hmeta) (by simp) rfl
    | false => exact hrest.step hv (Reader.step_literal hmeta) (by simp) rfl

theorem takes_termsOf (dotAll : Bool) (parts : List Part) {r : Reader}
    (hr : r.flags = flagsOf dotAll) :
    r.Takes (spelling parts).toList (termsOf dotAll parts) := by
  induction parts generalizing r dotAll with
  | nil => exact Reader.takes_nil
  | cons part parts ih =>
    have hv : r.flags.verbose = false := by rw [hr]; rfl
    have hpush (t : Term) : (r.push t).Takes (spelling parts).toList (termsOf dotAll parts) :=
      ih dotAll (r := r.push t) hr
    rw [toList_spelling_cons]
    cases part with
    | dotAll =>
      obtain ⟨groups, branches, items, flags, names⟩ := r
      obtain rfl : flags = flagsOf dotAll := hr
      have hrest := ih true (r := ⟨groups, branches, .switch :: items, flagsOf true, names⟩) rfl
      exact hrest.step hv rfl (Nat.le_add_right _ 3) rfl
    | start =>
      rw [termsOf, ← hr]
      exact (hpush _).step hv (Reader.step_caret _) (Nat.le_refl _) rfl
    | stop =>
      rw [termsOf, ← hr]
      exact (hpush _).step hv (Reader.step_dollar _) (Nat.le_refl _) rfl
    | dot =>
      rw [termsOf, ← hr]
      exact (hpush _).step hv (Reader.step_dot _) (Nat.le_refl _) rfl
    | dots =>
      rw [termsOf, ← hr]
      exact (hpush _).dots hv (head?_spelling parts)
    | text s => exact takes_literals s.toList hr fun r' hr' => ih dotAll hr'

/-! ### Depth -/

theorem depthList_le {k : Nat} {ts : List Term} (h : ∀ t ∈ ts, t.depth ≤ k) :
    Term.depthList ts ≤ k := by
  induction ts with
  | nil => exact Nat.zero_le k
  | cons t ts ih =>
    exact Nat.max_le.mpr ⟨h t (by simp), ih fun u hu => h u (by simp [hu])⟩

theorem depth_termsOf_le (dotAll : Bool) (parts : List Part) :
    ∀ t ∈ termsOf dotAll parts, t.depth ≤ 1 := by
  induction parts generalizing dotAll with
  | nil => simp [termsOf]
  | cons part parts ih =>
    cases part with
    | text s =>
      intro t ht
      simp only [termsOf, List.mem_append, List.mem_map] at ht
      obtain ⟨c, -, rfl⟩ | ht := ht
      · exact Nat.zero_le 1
      · exact ih dotAll t ht
    | dots => exact List.forall_mem_cons.mpr ⟨Nat.le_refl 1, ih dotAll⟩
    | _ => exact List.forall_mem_cons.mpr ⟨Nat.zero_le 1, ih _⟩

theorem depth_ofConcat_le {k : Nat} {ts : List Term} (h : ∀ t ∈ ts, t.depth ≤ k) :
    (Term.ofConcat ts).depth ≤ k + 1 := by
  have hlist := depthList_le h
  match ts with
  | [] => exact Nat.zero_le _
  | [t] => exact Nat.le_succ_of_le (h t (by simp))
  | t :: u :: rest => exact Nat.succ_le_succ hlist

theorem read_spelling (parts : List Part) :
    Term.read (spelling parts).toList = .ok (.ofConcat (termsOf false parts)) := by
  obtain ⟨n, hn, hrun⟩ := takes_termsOf false parts (r := .initial) rfl
  obtain ⟨left, hfuel⟩ := Nat.exists_eq_add_of_le hn
  have hterms : Reader.initial.run (spelling parts).toList.length (spelling parts).toList =
      .ok (.ofConcat (termsOf false parts)) := by
    rw [hfuel, Nat.add_comm, hrun left]
    simp [Reader.finish, Reader.content, Reader.initial, Term.ofAlternatives]
  have hdepth := depth_ofConcat_le (depth_termsOf_le false parts)
  have hlimit : ¬ depthLimit < (Term.ofConcat (termsOf false parts)).depth := by
    rw [depthLimit]
    omega
  rw [Term.read, hterms]
  exact if_neg hlimit

end RecordQuery.Regex
