import RecordQuery.Proofs.Draft.Chain
import RecordQuery.Regex.Engine

/-!
# Duality of quantifiers

A negated selection is the negation of the plain one, and NONE that of ANY, whatever the operators
are. This takes an operator, for without one every selection holds of every record. On a collection
that is joined from two others, ANY is decided by either part, and ALL and NONE by both.
-/

namespace RecordQuery

variable {ρ : Type}

namespace Quantifier

theorem verdict_all_eq_noneOf (holds : Value → Bool) (v : Value) :
    all.verdict holds v = noneOf.verdict (fun u => !holds u) v := by
  change v.elements.all holds = !v.elements.any fun u => !holds u
  rw [List.not_any_eq_all_not]
  simp only [Bool.not_not]

/-- How the verdicts on two parts of a collection make up the verdict on all of it. -/
def join (q : Quantifier) (b c : Bool) : Bool :=
  match q with
  | .any => b || c
  | _ => b && c

theorem verdict_append {q : Quantifier} (hq : q.isCollection = true) (holds : Value → Bool)
    {u v w : Value} (h : u.elements = v.elements ++ w.elements) :
    q.verdict holds u = q.join (q.verdict holds v) (q.verdict holds w) := by
  cases q with
  | plain => cases hq
  | negated => cases hq
  | any =>
    change u.elements.any holds = (v.elements.any holds || w.elements.any holds)
    rw [h, List.any_append]
  | all =>
    change u.elements.all holds = (v.elements.all holds && w.elements.all holds)
    rw [h, List.all_append]
  | noneOf =>
    change (!u.elements.any holds) = (!v.elements.any holds && !w.elements.any holds)
    rw [h, List.any_append, Bool.not_or]

end Quantifier

namespace Combination

section

variable [CharData] [Pattern.Engine]

theorem verdict_eq_negate {q q' : Quantifier}
    (h : ∀ holds v, q.verdict holds v = !q'.verdict holds v) (f : Field ρ) (s : Step)
    (rest : List Step) :
    verdict (.leaf (.chain q f (s :: rest))) =
      verdict (.negate (.leaf (.chain q' f (s :: rest)))) := by
  rw [verdict_negate, verdict_chain_cons, verdict_chain_cons]
  cases Step.chainHolds ρ s rest with
  | error g => rfl
  | ok holds => simp [Except.map, h]

theorem agree_all_noneOf (f : Field ρ) (v : Value) :
    Agree (.leaf (.chain .all f [.equalTo v])) (.leaf (.chain .noneOf f [.notEqualTo v])) := by
  refine ⟨_, verdict_equalTo .all f v, ?_⟩
  rw [verdict_notEqualTo]
  simp only [Quantifier.verdict_all_eq_noneOf]

theorem agree_any_negate_all (f : Field ρ) (v : Value) :
    Agree (.leaf (.chain .any f [.notEqualTo v]))
      (.negate (.leaf (.chain .all f [.equalTo v]))) := by
  refine ⟨_, verdict_notEqualTo .any f v, ?_⟩
  rw [verdict_negate, verdict_equalTo]
  simp only [Except.map, Quantifier.verdict_all_eq_noneOf, Quantifier.verdict_noneOf,
    Bool.not_not]

theorem verdict_chain_append {q : Quantifier} (hq : q.isCollection = true) {f : Field ρ}
    {steps : List Step} {p : ρ → Bool} (hp : verdict (.leaf (.chain q f steps)) = .ok p)
    {r r₁ r₂ : ρ} (h : (f.get r).elements = (f.get r₁).elements ++ (f.get r₂).elements) :
    p r = q.join (p r₁) (p r₂) := by
  obtain htrue | ⟨holds, hholds⟩ := verdict_chain_cases hp
  · rw [htrue, htrue, htrue]
    cases q <;> rfl
  · rw [hholds, hholds, hholds]
    exact q.verdict_append hq holds h

/-- Negated selections and NONE are the negations of plain ones and of ANY for every chain with an
operator, and ALL and ANY are dual on equality. Without an operator every selection is universal.
The verdict on a collection joined from two is that on either for ANY, and on both for the rest. -/
theorem verdict_dual (f : Field ρ) :
    (∀ s rest,
      verdict (.leaf (.chain .negated f (s :: rest))) =
        verdict (.negate (.leaf (.chain .plain f (s :: rest)))) ∧
      verdict (.leaf (.chain .noneOf f (s :: rest))) =
        verdict (.negate (.leaf (.chain .any f (s :: rest))))) ∧
    (∀ q steps, (∃ p, verdict (.leaf (.chain q f steps)) = .ok p) ↔
      ∀ source, .matchesRegex source ∈ steps → ∃ p, Pattern.regex source = .ok p) ∧
    (∀ v,
      Agree (.leaf (.chain .all f [.equalTo v])) (.leaf (.chain .noneOf f [.notEqualTo v])) ∧
      Agree (.leaf (.chain .any f [.notEqualTo v]))
        (.negate (.leaf (.chain .all f [.equalTo v])))) ∧
    (∀ q, (∃ p, Build.result (Draft.chain q f []).build = .ok p ∧ p.compile = .universal) ∧
      verdict (.leaf (.chain q f [])) = .ok fun _ => true) ∧
    ∀ steps p r r₁ r₂, (f.get r).elements = (f.get r₁).elements ++ (f.get r₂).elements →
      (verdict (.leaf (.chain .any f steps)) = .ok p → p r = (p r₁ || p r₂)) ∧
      (verdict (.leaf (.chain .all f steps)) = .ok p → p r = (p r₁ && p r₂)) ∧
      (verdict (.leaf (.chain .noneOf f steps)) = .ok p → p r = (p r₁ && p r₂)) := by
  refine ⟨fun s rest => ⟨?_, ?_⟩, fun q steps => exists_verdict_chain_iff, fun v => ⟨?_, ?_⟩,
    fun q => ⟨⟨.select q f, rfl, rfl⟩, verdict_chain_nil q f⟩,
    fun steps p r r₁ r₂ h => ⟨fun hp => ?_, fun hp => ?_, fun hp => ?_⟩⟩
  · exact verdict_eq_negate Quantifier.verdict_negated f s rest
  · exact verdict_eq_negate Quantifier.verdict_noneOf f s rest
  · exact agree_all_noneOf f v
  · exact agree_any_negate_all f v
  · exact verdict_chain_append rfl hp h
  · exact verdict_chain_append rfl hp h
  · exact verdict_chain_append rfl hp h

end

theorem verdict_dual_scores :
    let scores : Field Record := .named "scores"
    let score (n : Int64) : Value := .number (.signed n)
    let steps : List Step := [.greaterThan (score 3), .like "*"]
    let low : Record := [("scores", .list [score 1])]
    let high : Record := [("scores", .list [score 5, .absent])]
    let both : Record := [("scores", .list [score 1, score 5, .absent])]
    ∃ p, verdict (.leaf (.chain .any scores steps)) = .ok p ∧
      (scores.get both).elements = (scores.get low).elements ++ (scores.get high).elements ∧
      p both = (p low || p high) ∧ p low = false ∧ p high = true := by
  intro scores score steps low high both
  have hverdict : verdict (.leaf (.chain .any scores steps)) = .ok fun r =>
      Quantifier.any.verdict (Action.greaterThan (score 3) : Action Record).holds
        (scores.get r) := rfl
  have helements : (scores.get both).elements =
      (scores.get low).elements ++ (scores.get high).elements := rfl
  obtain ⟨-, -, -, -, hjoin⟩ := verdict_dual scores
  exact ⟨_, hverdict, helements, (hjoin steps _ both low high helements).1 hverdict, rfl, rfl⟩

end Combination

end RecordQuery
