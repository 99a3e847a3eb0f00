import RecordQuery.Schema.Attribute

/-!
# Grammars for attributes

What is known of the grammar that reads attributes, whichever it is. Attributes in their plain
spellings are read as they are meant, and a list is read attribute by attribute up to its end, with
a comma after each of them that may be missing after the last one.
-/

namespace RecordQuery.Schema

/-- Tokens with which an attribute in a list cannot go on. -/
inductive Ends : List Token → Prop where
  | nil : Ends []
  | comma (joined : Bool) (rest : List Token) : Ends (.mark ',' joined :: rest)

namespace Attribute

/-- How attributes with a single name, and with a literal for a value if any, are written. -/
inductive Plain : List Token → Attribute → Prop where
  | word {name : String} (h : isSegment name = true) : Plain [.word name] (.word ⟨false, [name]⟩)
  | list {name : String} (h : isSegment name = true) (d : Delimiter) (inner : List Token) :
    Plain [.word name, .group d inner] (.list ⟨false, [name]⟩ inner)
  | text {name : String} (h : isSegment name = true) (joined : Bool) (value : String) :
    Plain [.word name, .mark '=' joined, .text value] (.value ⟨false, [name]⟩ (some value))
  | literal {name : String} (h : isSegment name = true) (joined : Bool) :
    Plain [.word name, .mark '=' joined, .literal] (.value ⟨false, [name]⟩ none)

inductive PlainList : List Token → List Attribute → Prop where
  | nil : PlainList [] []
  | last {ts : List Token} {a : Attribute} (h : Plain ts a) : PlainList ts [a]
  | cons {ts rest : List Token} {a : Attribute} {items : List Attribute} (h : Plain ts a)
    (joined : Bool) (hrest : PlainList rest items) :
    PlainList (ts ++ .mark ',' joined :: rest) (a :: items)

end Attribute

namespace Grammar

variable [Grammar]

/-- The tokens are those of the attributes, with commas between them and perhaps one at the end. -/
inductive Written : List Token → List Attribute → Prop where
  | nil : Written [] []
  | last {ts : List Token} {a : Attribute} (h : item ts = .ok (a, [])) : Written ts [a]
  | cons {ts rest : List Token} {a : Attribute} {joined : Bool} {items : List Attribute}
    (h : item ts = .ok (a, .mark ',' joined :: rest)) (hrest : Written rest items) :
    Written ts (a :: items)

/-- The tokens go wrong: in an attribute, or where a comma should follow one. -/
inductive Broken : List Token → Prop where
  | item {ts : List Token} {message : String} (hne : ts ≠ []) (h : item ts = .error message) :
    Broken ts
  | comma {ts rest : List Token} {a : Attribute} (hne : ts ≠ []) (h : item ts = .ok (a, rest))
    (hrest : ¬ Ends rest) : Broken ts
  | later {ts rest : List Token} {a : Attribute} {joined : Bool} (hne : ts ≠ [])
    (h : item ts = .ok (a, .mark ',' joined :: rest)) (hrest : Broken rest) : Broken ts

theorem Broken.not_written {ts : List Token} (h : Broken ts) (items : List Attribute) :
    ¬ Written ts items := by
  induction h generalizing items with
  | item hne h =>
    intro hwritten
    cases hwritten with
    | nil => exact hne rfl
    | last hlast => cases h.symm.trans hlast
    | cons hcons _ => cases h.symm.trans hcons
  | comma hne h hrest =>
    intro hwritten
    cases hwritten with
    | nil => exact hne rfl
    | last hlast =>
      cases h.symm.trans hlast
      exact hrest .nil
    | cons hcons _ =>
      cases h.symm.trans hcons
      exact hrest (.comma _ _)
  | later hne h _ ih =>
    intro hwritten
    cases hwritten with
    | nil => exact hne rfl
    | last hlast => cases h.symm.trans hlast
    | cons hcons hrest =>
      cases h.symm.trans hcons
      exact ih _ hrest

/-- A grammar that does what is said of it. -/
class Documented : Prop where
  item_plain {ts rest : List Token} {a : Attribute} (h : Attribute.Plain ts a) (hrest : Ends rest) :
    item (ts ++ rest) = .ok (a, rest)
  list_eq_ok_iff {ts : List Token} {items : List Attribute} :
    list ts = .ok items ↔ Written ts items

variable [Documented]

theorem written_of_plainList {ts : List Token} {items : List Attribute}
    (h : Attribute.PlainList ts items) : Written ts items := by
  induction h with
  | nil => exact .nil
  | last h =>
    have hitem := Documented.item_plain h .nil
    rw [List.append_nil] at hitem
    exact .last hitem
  | cons h joined _ ih => exact .cons (Documented.item_plain h (.comma joined _)) ih

theorem exists_error_of_broken {ts : List Token} (h : Broken ts) :
    ∃ message, list ts = .error message := by
  cases hlist : list ts with
  | error message => exact ⟨message, rfl⟩
  | ok items => exact absurd (Documented.list_eq_ok_iff.mp hlist) (h.not_written items)

end Grammar

end RecordQuery.Schema
