import RecordQuery.Unicode.Property
import RecordQuery.Unicode.Script

/-!
# Properties by name

Names of properties and of their values are compared loosely: case, blanks, hyphens, underscores
and a leading "is" make no difference.
-/

namespace RecordQuery.Unicode

inductive LookupFault where
  | property
  | value
deriving DecidableEq

namespace Lookup

def essence (name : List Char) : List Char :=
  (name.filter fun c => c.toNat < 128 && c != '-' && c != ' ' && c != '_').map Char.toLower

/-- The form in which names are compared. The name "isc" means itself, not the value "c". -/
def normalize (name : List Char) : List Char :=
  match name with
  | i :: s :: rest =>
    if i.toLower = 'i' ∧ s.toLower = 's' then
      if essence rest = ['c'] then ['i', 's', 'c'] else essence rest
    else essence name
  | _ => essence name

def names (name : List Char) (candidates : List String) : Bool :=
  candidates.any fun s => normalize s.toList == name

def categories : List (List String × List GeneralCategory) :=
  let upper := .uppercaseLetter
  let lower := .lowercaseLetter
  let title := .titlecaseLetter
  [(["Lu", "Uppercase_Letter"], [upper]), (["Ll", "Lowercase_Letter"], [lower]),
    (["Lt", "Titlecase_Letter"], [title]), (["LC", "Cased_Letter"], [upper, lower, title]),
    (["Lm", "Modifier_Letter"], [.modifierLetter]), (["Lo", "Other_Letter"], [.otherLetter]),
    (["L", "Letter"], [upper, lower, title, .modifierLetter, .otherLetter]),
    (["Mn", "Nonspacing_Mark"], [.nonspacingMark]), (["Mc", "Spacing_Mark"], [.spacingMark]),
    (["Me", "Enclosing_Mark"], [.enclosingMark]),
    (["M", "Mark", "Combining_Mark"], [.nonspacingMark, .spacingMark, .enclosingMark]),
    (["Nd", "Decimal_Number", "digit"], [.decimalNumber]),
    (["Nl", "Letter_Number"], [.letterNumber]), (["No", "Other_Number"], [.otherNumber]),
    (["N", "Number"], [.decimalNumber, .letterNumber, .otherNumber]),
    (["Pc", "Connector_Punctuation"], [.connectorPunctuation]),
    (["Pd", "Dash_Punctuation"], [.dashPunctuation]),
    (["Ps", "Open_Punctuation"], [.openPunctuation]),
    (["Pe", "Close_Punctuation"], [.closePunctuation]),
    (["Pi", "Initial_Punctuation"], [.initialPunctuation]),
    (["Pf", "Final_Punctuation"], [.finalPunctuation]),
    (["Po", "Other_Punctuation"], [.otherPunctuation]),
    (["P", "Punctuation", "punct"],
      [.connectorPunctuation, .dashPunctuation, .openPunctuation, .closePunctuation,
        .initialPunctuation, .finalPunctuation, .otherPunctuation]),
    (["Sm", "Math_Symbol"], [.mathSymbol]), (["Sc", "Currency_Symbol"], [.currencySymbol]),
    (["Sk", "Modifier_Symbol"], [.modifierSymbol]), (["So", "Other_Symbol"], [.otherSymbol]),
    (["S", "Symbol"], [.mathSymbol, .currencySymbol, .modifierSymbol, .otherSymbol]),
    (["Zs", "Space_Separator"], [.spaceSeparator]), (["Zl", "Line_Separator"], [.lineSeparator]),
    (["Zp", "Paragraph_Separator"], [.paragraphSeparator]),
    (["Z", "Separator"], [.spaceSeparator, .lineSeparator, .paragraphSeparator]),
    (["Cc", "Control", "cntrl"], [.control]), (["Cf", "Format"], [.format]),
    (["Co", "Private_Use"], [.privateUse]), (["Cn", "Unassigned"], [.unassigned]),
    (["C", "Other"], [.control, .format, .privateUse, .unassigned])]

/-- The set of a general category, of a group of them, or of all code points, the assigned ones or
the ASCII ones, by name. Surrogates are not characters and have no set. -/
def category? (name : List Char) : Option (Except LookupFault CodeSet) :=
  if names name ["Any"] then some (.ok .full)
  else if names name ["Assigned"] then some (.ok GeneralCategory.unassigned.codes.complement)
  else if names name ["ASCII"] then some (.ok ⟨[(0, 127)]⟩)
  else if names name ["Cs", "Surrogate"] then some (.error .value)
  else (categories.find? fun (ns, _) => names name ns).map fun (_, cs) =>
    .ok (.unions (cs.map GeneralCategory.codes))

def scriptAliases (s : Script) : List String :=
  if s.code == "Copt" then ["Qaac"] else if s.code == "Zinh" then ["Qaai"] else []

/-- The set of a script by name, `codes` being the members or the extended members. Two names are
known that have no members. -/
def script? (codes : Script → CodeSet) (name : List Char) : Option (Except LookupFault CodeSet) :=
  match Script.all.find? fun s => names name (s.code :: s.name :: scriptAliases s) with
  | some s => some (.ok (codes s))
  | none =>
    if names name ["Hrkt", "Katakana_Or_Hiragana", "Zzzz", "Unknown"] then some (.error .value)
    else none

def otherProperties : List String :=
  ["age", "Age", "bc", "Bidi_Class", "blk", "Block", "bmg", "Bidi_Mirroring_Glyph", "bpb",
    "Bidi_Paired_Bracket", "bpt", "Bidi_Paired_Bracket_Type", "ccc", "Canonical_Combining_Class",
    "CE", "Composition_Exclusion", "cf", "Case_Folding", "Comp_Ex", "Full_Composition_Exclusion",
    "dm", "Decomposition_Mapping", "dt", "Decomposition_Type", "ea", "East_Asian_Width",
    "EqUIdeo", "Equivalent_Unified_Ideograph", "FC_NFKC", "FC_NFKC_Closure", "gc",
    "General_Category", "GCB", "Grapheme_Cluster_Break", "hst", "Hangul_Syllable_Type", "InPC",
    "Indic_Positional_Category", "InSC", "Indic_Syllabic_Category", "isc", "ISO_Comment", "jg",
    "Joining_Group", "JSN", "Jamo_Short_Name", "jt", "Joining_Type", "lb", "Line_Break", "lc",
    "Lowercase_Mapping", "na", "Name", "na1", "Unicode_1_Name", "Name_Alias", "NFC_QC",
    "NFC_Quick_Check", "NFD_QC", "NFD_Quick_Check", "NFKC_CF", "NFKC_Casefold", "NFKC_QC",
    "NFKC_Quick_Check", "NFKD_QC", "NFKD_Quick_Check", "nt", "Numeric_Type", "nv",
    "Numeric_Value", "SB", "Sentence_Break", "sc", "Script", "scf", "sfc", "Simple_Case_Folding",
    "scx", "Script_Extensions", "slc", "Simple_Lowercase_Mapping", "stc",
    "Simple_Titlecase_Mapping", "suc", "Simple_Uppercase_Mapping", "tc", "Titlecase_Mapping",
    "uc", "Uppercase_Mapping", "vo", "Vertical_Orientation", "WB", "Word_Break"]

def binary? (name : List Char) : Option CodeSet :=
  if names name ["space"] then some Property.whiteSpace
  else
    match Property.composed.find? fun (short, long, _) => names name [short, long] with
    | some (_, _, set) => some set
    | none =>
      (Property.listed.find? fun p => names name [p.short, p.name]).map fun p => .read p.table

/-- The set that a single name stands for: a binary property, or else a general category, or else
a script. Three names that also abbreviate other properties are those of categories. -/
def single (name : List Char) : Except LookupFault CodeSet :=
  let name := normalize name
  let ambiguous := names name ["cf", "sc", "lc"]
  match if ambiguous then none else binary? name with
  | some set => .ok set
  | none =>
    if !ambiguous && names name otherProperties then .error .property
    else
      match category? name <|> script? Script.codes name with
      | some found => found
      | none => .error .property

def valued (property value : List Char) : Except LookupFault CodeSet :=
  let property := normalize property
  let value := normalize value
  if names property ["gc", "General_Category"] then (category? value).getD (.error .value)
  else if names property ["sc", "Script"] then (script? Script.codes value).getD (.error .value)
  else if names property ["scx", "Script_Extensions"] then
    (script? Script.extendedCodes value).getD (.error .value)
  else if names property otherProperties || (binary? property).isSome then .error .value
  else .error .property

end Lookup

end RecordQuery.Unicode
