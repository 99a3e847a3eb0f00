import RecordQuery.Unicode.CodeSet

/-!
# Spelling Latin letters in ASCII

Strokes, hooks and tails are part of a letter and no marks of their own, so a decomposition does
not separate them. Such letters are listed here with their spelling in ASCII, and with them the
ligatures and the letters that are spelt with two. Letters of other blocks are left out.
-/

namespace RecordQuery.Unicode.Spelling

/-- Letters of the extended Latin blocks without a decomposition, each followed by its spelling. -/
def table : String :=
  "ÐD ØO ðd øo ĐD đd ĦH ħh ıi ĸk ĿL ŀl ŁL łl ŦT ŧt ſs ƀb ƁB ƂB ƃb ƆO ƇC ƈc ƉD ƊD ƋD ƌd ƍd ƐE
  ƑF ƒf ƓG ƔG ƖI ƗI ƘK ƙk ƚl ƛl ƜW ƝN ƞn ƟO ƤP ƥp ƫt ƬT ƭt ƮT ƱY ƲV ƳY ƴy ƵZ ƶz ƿw ǤG ǥg ǷW
  ȜY ȝy ȠN ȡd ȤZ ȥz ȴl ȵn ȶt ȷj ȺA ȻC ȼc ȽL ȾT ȿs ɀz ɃB ɄU ɆE ɇe ɈJ ɉj Ɋq ɋq ɌR ɍr ɎY ɏy
  ẚa ẜs ẝs ẟd ỼV ỽv ỾY ỿy
  ÆAE ÞTh ßss æae þth ĲIJ ĳij ŊNG ŋng ŒOE œoe ƕhv ƢOI ƣoi ǄDZ ǅDz ǆdz ǇLJ ǈLj ǉlj ǊNJ ǋNj ǌnj
  ǱDZ ǲDz ǳdz ǶHV ȢOU ȣou ẞSs"

def listed : Std.HashMap Nat (List Char) :=
  (words table).foldl
    (fun m w =>
      match w with
      | letter :: spelling => m.insert letter.toNat spelling
      | [] => m) ∅

end RecordQuery.Unicode.Spelling
