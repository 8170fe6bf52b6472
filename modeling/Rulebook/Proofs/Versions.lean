import Mathlib.Data.List.TakeWhile
import Rulebook.Engine.Basic
import Rulebook.Proofs.CharRanges

/-!
# Versions and their grammar

A version is three numbers, then identifiers of a prerelease and of a build. The grammar of SemVer 2.0.0
has only digits of ASCII. What is accepted has any decimal digits after the first digit of a number and
before the first letter of an identifier; where all digits of a text are of ASCII, that is the same.
-/

namespace Rulebook.Semver

/-! ## The parts of a text -/

theorem dotted_eq_splitOn (cs : List Char) : dotted cs = cs.splitOn '.' := by
  induction cs with
  | nil => rfl
  | cons c cs ih =>
    rw [List.splitOn, List.splitOnP_cons_eq_if_modifyHead, ← List.splitOn, ← ih]
    by_cases hc : c = '.'
    · simp [dotted, hc]
    · cases hdotted : dotted cs with
      | nil => exact absurd (ih.symm.trans hdotted) (List.splitOn_ne_nil '.' cs)
      | cons part parts => simp [dotted, hc, hdotted]

/-- Parts with dots between them, each as `part` says. -/
def Dotted (part : List Char → Prop) (cs : List Char) : Prop :=
  ∃ parts, parts ≠ [] ∧ (∀ p ∈ parts, part p) ∧ cs = ['.'].intercalate parts

theorem forall_dotted_iff {part : List Char → Prop} (hdot : ∀ p, part p → '.' ∉ p) (cs : List Char) :
    (∀ p ∈ dotted cs, part p) ↔ Dotted part cs := by
  rw [dotted_eq_splitOn]
  constructor
  · exact fun h => ⟨cs.splitOn '.', List.splitOn_ne_nil '.' cs, h, (List.intercalate_splitOn '.').symm⟩
  · rintro ⟨parts, hne, hparts, rfl⟩
    rwa [List.splitOn_intercalate '.' (fun p hp => hdot p (hparts p hp)) hne]

/-- What a mark leads in, with the mark, if it is there. -/
def after (mark : Char) (rest : Option (List Char)) : List Char := rest.elim [] (mark :: ·)

theorem cutAt_append {mark : Char} {front : List Char} (hfront : mark ∉ front) (rest : Option (List Char)) :
    cutAt mark (front ++ after mark rest) = (front, rest) := by
  have hall : ∀ c ∈ front, (c != mark) = true := fun c hc => bne_iff_ne.2 fun he => hfront (he ▸ hc)
  unfold cutAt
  rw [List.dropWhile_append_of_pos hall, List.takeWhile_append_of_pos hall]
  cases rest with
  | none => simp [after]
  | some rest => simp [after]

theorem cutAt_spec (mark : Char) (cs : List Char) :
    mark ∉ (cutAt mark cs).1 ∧ cs = (cutAt mark cs).1 ++ after mark (cutAt mark cs).2 := by
  have happend := List.takeWhile_append_dropWhile (p := (· != mark)) (l := cs)
  have htake : mark ∉ cs.takeWhile (· != mark) := fun h => by simpa using List.mem_takeWhile_imp h
  unfold cutAt
  cases hdrop : cs.dropWhile (· != mark) with
  | nil =>
    rw [hdrop, List.append_nil] at happend
    exact ⟨happend ▸ htake, by simp [after]⟩
  | cons c rest =>
    have hc : c = mark := by
      have hhead := List.head?_dropWhile_not (· != mark) cs
      rw [hdrop] at hhead
      simpa using hhead
    rw [hdrop, hc] at happend
    exact ⟨htake, happend.symm⟩

/-! ## Grammars -/

/-- No leading zero, and after the first digit those that count as such. -/
def Numeric (digit : Char → Bool) (cs : List Char) : Prop :=
  cs = ['0'] ∨ ∃ c rest, cs = c :: rest ∧ '1' ≤ c ∧ c ≤ '9' ∧ ∀ d ∈ rest, digit d = true

/-- Letters, digits and dashes of ASCII. -/
def Ident (cs : List Char) : Prop := cs ≠ [] ∧ ∀ c ∈ cs, isIdentChar c = true

/-- Digits that count as such, a letter or a dash, and more of an identifier. -/
def Word (digit : Char → Bool) (cs : List Char) : Prop :=
  ∃ digits c rest, cs = digits ++ c :: rest ∧ (∀ d ∈ digits, digit d = true) ∧
    (c.isAlpha = true ∨ c = '-') ∧ ∀ d ∈ rest, isIdentChar d = true

structure Grammar where
  number : List Char → Prop
  prerelease : List Char → Prop
  build : List Char → Prop

/-- SemVer 2.0.0: an identifier of digits alone has no leading zero in a prerelease. -/
def Grammar.semver : Grammar where
  number := Numeric Char.isDigit
  prerelease cs := Ident cs ∧ ((∀ c ∈ cs, c.isDigit = true) → Numeric Char.isDigit cs)
  build := Ident

/-- What is accepted, by the digits that count as such. -/
def Grammar.accepted (digit : Char → Bool) : Grammar where
  number := Numeric digit
  prerelease cs := Numeric digit cs ∨ Word digit cs
  build := Ident

/-- A version, with its prerelease if it has one. -/
def Grammar.Derives (g : Grammar) (cs : List Char) (prerelease : Option (List Char)) : Prop :=
  ∃ major minor patch build, g.number major ∧ g.number minor ∧ g.number patch ∧
    (∀ p ∈ prerelease, Dotted g.prerelease p) ∧ (∀ b ∈ build, Dotted g.build b) ∧
    cs = ['.'].intercalate [major, minor, patch] ++ after '-' prerelease ++ after '+' build

theorem mem_intercalate {c : Char} {parts : List (List Char)} (h : c ∈ ['.'].intercalate parts) :
    c = '.' ∨ ∃ p ∈ parts, c ∈ p := by
  induction parts with
  | nil => cases h
  | cons p parts ih =>
    cases parts with
    | nil => exact .inr ⟨p, List.mem_singleton_self p, by simpa using h⟩
    | cons q parts =>
      rw [List.intercalate_cons_cons, List.mem_append, List.mem_append] at h
      rcases h with (h | h) | h
      · exact .inr ⟨p, List.mem_cons_self, h⟩
      · exact .inl (List.mem_singleton.1 h)
      · exact (ih h).imp_right fun ⟨r, hr, hc⟩ => ⟨r, List.mem_cons_of_mem p hr, hc⟩

theorem mem_intercalate_of_mem {c : Char} {p : List Char} {parts : List (List Char)} (hp : p ∈ parts)
    (hc : c ∈ p) : c ∈ ['.'].intercalate parts := by
  induction parts with
  | nil => cases hp
  | cons q parts ih =>
    cases parts with
    | nil =>
      rw [List.mem_singleton.1 hp] at hc
      simpa using hc
    | cons r parts =>
      rw [List.intercalate_cons_cons, List.mem_append, List.mem_append]
      rcases List.mem_cons.1 hp with rfl | hp
      · exact .inl (.inl hc)
      · exact .inr (ih hp)

/-! ## Digits, numbers and words -/

/-- The digits that count as such. -/
abbrev Grammar.decimal : Grammar := .accepted decimalDigits.has

theorem isDigit_iff (c : Char) : c.isDigit = true ↔ 48 ≤ c.toNat ∧ c.toNat ≤ 57 := by
  exact Bool.and_eq_true_iff.trans (and_congr decide_eq_true_iff decide_eq_true_iff)

theorem isAlpha_iff (c : Char) :
    c.isAlpha = true ↔ (65 ≤ c.toNat ∧ c.toNat ≤ 90) ∨ (97 ≤ c.toNat ∧ c.toNat ≤ 122) := by
  have hupper : c.isUpper = true ↔ 65 ≤ c.toNat ∧ c.toNat ≤ 90 := decide_eq_true_iff
  have hlower : c.isLower = true ↔ 97 ≤ c.toNat ∧ c.toNat ≤ 122 :=
    Bool.and_eq_true_iff.trans (and_congr decide_eq_true_iff decide_eq_true_iff)
  exact Bool.or_eq_true_iff.trans (or_congr hupper hlower)

theorem has_decimalDigits {c : Char} (hc : c.toNat < 128) : decimalDigits.has c = c.isDigit := by
  have hholds := Category.holds_decimalNumber (n := c.toNat) (by omega)
  rw [Bool.eq_iff_iff, isDigit_iff]
  refine hholds.trans ?_
  omega

theorem has_decimalDigits_of_isDigit {c : Char} (h : c.isDigit = true) : decimalDigits.has c = true := by
  rw [has_decimalDigits, h]
  have := (isDigit_iff c).1 h
  omega

theorem not_has_decimalDigits_of_isAlpha {c : Char} (h : c.isAlpha = true ∨ c = '-') :
    decimalDigits.has c = false := by
  have hdigit : ¬ c.isDigit = true := by
    rw [isDigit_iff]
    rcases h with h | rfl
    · have := (isAlpha_iff c).1 h
      omega
    · decide
  have hascii : c.toNat < 128 := by
    rcases h with h | rfl
    · have := (isAlpha_iff c).1 h
      omega
    · decide
  rw [has_decimalDigits hascii]
  simpa using hdigit

theorem isNumber_iff (cs : List Char) : isNumber cs = true ↔ Numeric decimalDigits.has cs := by
  unfold isNumber
  split
  · simp [Numeric]
  · rename_i c cs hne
    simp only [Numeric, Bool.and_eq_true, decide_eq_true_eq, List.all_eq_true]
    constructor
    · rintro ⟨⟨hlo, hhi⟩, hall⟩
      exact .inr ⟨c, cs, rfl, hlo, hhi, hall⟩
    · rintro (hzero | ⟨_, _, heq, hlo, hhi, hall⟩)
      · cases hzero
        exact absurd rfl (hne rfl)
      · cases heq
        exact ⟨⟨hlo, hhi⟩, hall⟩
  · simp [Numeric]

theorem isWord_iff (cs : List Char) : isWord cs = true ↔ Word decimalDigits.has cs := by
  unfold isWord
  constructor
  · intro h
    have happend := List.takeWhile_append_dropWhile (p := decimalDigits.has) (l := cs)
    cases hdrop : cs.dropWhile decimalDigits.has with
    | nil =>
      rw [hdrop] at h
      cases h
    | cons c rest =>
      rw [hdrop] at h happend
      simp only [Bool.and_eq_true, Bool.or_eq_true, decide_eq_true_eq, List.all_eq_true] at h
      exact ⟨_, c, rest, happend.symm, fun d hd => List.mem_takeWhile_imp hd, h.1, h.2⟩
  · rintro ⟨digits, c, rest, rfl, hdigits, hc, hrest⟩
    rw [List.dropWhile_append_of_pos hdigits]
    simpa [not_has_decimalDigits_of_isAlpha hc] using ⟨hc, hrest⟩

theorem isBuildIdent_iff (cs : List Char) : isBuildIdent cs = true ↔ Ident cs := by
  simp [isBuildIdent, Ident]

/-! ## Marks -/

section
variable {cs : List Char} {c : Char} (hc : c ∈ cs)
include hc

theorem Numeric.digit_of_mem {digit : Char → Bool} (hdigit : ∀ c, c.isDigit = true → digit c = true)
    (h : Numeric digit cs) : digit c = true := by
  rcases h with rfl | ⟨first, rest, rfl, hlo, hhi, hrest⟩
  · rw [List.mem_singleton.1 hc]
    exact hdigit '0' (by decide)
  · rcases List.mem_cons.1 hc with rfl | hc
    · refine hdigit c ?_
      rw [isDigit_iff]
      exact ⟨Nat.le_of_succ_le hlo, hhi⟩
    · exact hrest c hc

theorem Word.has_or_isIdentChar_of_mem {digit : Char → Bool} (h : Word digit cs) :
    digit c = true ∨ isIdentChar c = true := by
  obtain ⟨digits, letter, rest, rfl, hdigits, hletter, hrest⟩ := h
  rcases List.mem_append.1 hc with hc | hc
  · exact .inl (hdigits c hc)
  · rcases List.mem_cons.1 hc with rfl | hc
    · right
      rcases hletter with hletter | rfl
      · simp [isIdentChar, Char.isAlphanum, hletter]
      · decide
    · exact .inr (hrest c hc)

theorem Grammar.decimal_prerelease_of_mem (h : Grammar.decimal.prerelease cs) :
    decimalDigits.has c = true ∨ isIdentChar c = true :=
  h.elim (fun h => .inl (h.digit_of_mem hc fun _ => has_decimalDigits_of_isDigit))
    fun h => h.has_or_isIdentChar_of_mem hc

end

/-- Dots, dashes and pluses are no digits, and dots and pluses are in no identifier. -/
theorem not_has_decimalDigits_of_mark {mark : Char} (h : mark ∈ ['.', '-', '+']) :
    decimalDigits.has mark = false := by
  have hmark : ∀ c ∈ ['.', '-', '+'], c.toNat < 128 ∧ c.isDigit = false := by simp
  rw [has_decimalDigits (hmark mark h).1, (hmark mark h).2]

theorem not_mem_number {mark : Char} (hmark : mark ∈ ['.', '-', '+']) {cs : List Char}
    (h : Numeric decimalDigits.has cs) : mark ∉ cs := by
  intro hmem
  have hhas := h.digit_of_mem hmem fun _ => has_decimalDigits_of_isDigit
  rw [not_has_decimalDigits_of_mark hmark] at hhas
  cases hhas

theorem not_mem_prerelease {mark : Char} (hmark : mark ∈ ['.', '+']) {cs : List Char}
    (h : Grammar.decimal.prerelease cs) : mark ∉ cs := by
  intro hmem
  have hident : ∀ c ∈ ['.', '+'], isIdentChar c = false ∧ c ∈ ['.', '-', '+'] := by
    simp [isIdentChar]
  have hhas := Grammar.decimal_prerelease_of_mem hmem h
  rw [not_has_decimalDigits_of_mark (hident mark hmark).2, (hident mark hmark).1] at hhas
  rcases hhas with h | h <;> cases h

theorem not_mem_ident {cs : List Char} (h : Ident cs) : '.' ∉ cs := by
  intro hmem
  have hdot := h.2 '.' hmem
  revert hdot
  decide

theorem not_mem_core {mark : Char} (hmark : mark ∈ ['-', '+']) {major minor patch : List Char}
    (hmajor : Numeric decimalDigits.has major) (hminor : Numeric decimalDigits.has minor)
    (hpatch : Numeric decimalDigits.has patch) : mark ∉ ['.'].intercalate [major, minor, patch] := by
  intro hmem
  have hmarks : ∀ c ∈ ['-', '+'], c ≠ '.' ∧ c ∈ ['.', '-', '+'] := by simp
  obtain ⟨hne, hmark⟩ := hmarks mark hmark
  rcases mem_intercalate hmem with h | ⟨p, hp, hmem⟩
  · exact hne h
  · have hnumber : Numeric decimalDigits.has p := by
      simp only [List.mem_cons, List.not_mem_nil, or_false] at hp
      rcases hp with rfl | rfl | rfl <;> assumption
    exact not_mem_number hmark hnumber hmem

theorem dotted_core {major minor patch : List Char} (hmajor : Numeric decimalDigits.has major)
    (hminor : Numeric decimalDigits.has minor) (hpatch : Numeric decimalDigits.has patch) :
    dotted (['.'].intercalate [major, minor, patch]) = [major, minor, patch] := by
  rw [dotted_eq_splitOn]
  refine List.splitOn_intercalate '.' (fun p hp => ?_) (by simp)
  simp only [List.mem_cons, List.not_mem_nil, or_false] at hp
  rcases hp with rfl | rfl | rfl
  · exact not_mem_number (by simp) hmajor
  · exact not_mem_number (by simp) hminor
  · exact not_mem_number (by simp) hpatch

theorem plus_not_mem_prerelease {prerelease : Option (List Char)}
    (h : ∀ p ∈ prerelease, Dotted Grammar.decimal.prerelease p) : '+' ∉ after '-' prerelease := by
  cases prerelease with
  | none => simp [after]
  | some p =>
    obtain ⟨parts, -, hparts, rfl⟩ := h p rfl
    intro hmem
    rcases List.mem_cons.1 hmem with h | h
    · cases h
    · rcases mem_intercalate h with h | ⟨q, hq, hmem⟩
      · cases h
      · exact not_mem_prerelease (by simp) (hparts q hq) hmem

/-! ## What is read is of the grammar -/

/-- A text cut at its marks. -/
def cutVersion (cs : List Char) : Version :=
  ⟨dotted (cutAt '-' (cutAt '+' cs).1).1, (cutAt '-' (cutAt '+' cs).1).2, (cutAt '+' cs).2⟩

theorem cutVersion_spec (cs : List Char) :
    cs = ['.'].intercalate (cutVersion cs).core ++ after '-' (cutVersion cs).prerelease ++
      after '+' (cutVersion cs).build := by
  unfold cutVersion
  rw [dotted_eq_splitOn, List.intercalate_splitOn, ← (cutAt_spec '-' _).2]
  exact (cutAt_spec '+' cs).2

theorem ofChars?_eq_some_iff {cs : List Char} {v : Version} :
    Version.ofChars? cs = some v ↔
      v = cutVersion cs ∧ v.core.length = 3 ∧ (∀ p ∈ v.core, Numeric decimalDigits.has p) ∧
      (∀ p ∈ v.prerelease, ∀ q ∈ dotted p, Grammar.decimal.prerelease q) ∧
      (∀ b ∈ v.build, ∀ q ∈ dotted b, Ident q) := by
  have hread : Version.ofChars? cs = some v ↔
      v = cutVersion cs ∧ v.core.length = 3 ∧ v.core.all isNumber ∧
      v.prerelease.all (fun p => (dotted p).all fun q => isNumber q || isWord q) ∧
      v.build.all (fun b => (dotted b).all isBuildIdent) := by
    constructor
    · intro h
      obtain ⟨hv, h⟩ := Option.ite_none_right_eq_some.1 h
      cases h
      exact ⟨rfl, hv⟩
    · rintro ⟨rfl, hv⟩
      exact if_pos hv
  simp only [hread, List.all_eq_true, Option.all_eq_true, isNumber_iff, isBuildIdent_iff, Bool.or_eq_true,
    isWord_iff]
  rfl

theorem derives_of_ofChars {cs : List Char} {v : Version} (h : Version.ofChars? cs = some v) :
    Grammar.decimal.Derives cs v.prerelease := by
  obtain ⟨hv, hlength, hcore, hprerelease, hbuild⟩ := ofChars?_eq_some_iff.1 h
  have hcs := cutVersion_spec cs
  rw [← hv] at hcs
  obtain ⟨core, prerelease, build⟩ := v
  obtain ⟨major, minor, patch, rfl⟩ := List.length_eq_three.1 hlength
  obtain ⟨hmajor, hminor, hpatch⟩ : Numeric decimalDigits.has major ∧ Numeric decimalDigits.has minor ∧
      Numeric decimalDigits.has patch := by
    simpa using hcore
  refine ⟨major, minor, patch, build, hmajor, hminor, hpatch, fun p hp => ?_, fun b hb => ?_, hcs⟩
  · exact (forall_dotted_iff (fun q hq => not_mem_prerelease (by simp) hq) p).1 (hprerelease p hp)
  · exact (forall_dotted_iff (fun q hq => not_mem_ident hq) b).1 (hbuild b hb)

theorem ofChars_of_derives {cs : List Char} {prerelease : Option (List Char)}
    (h : Grammar.decimal.Derives cs prerelease) :
    ∃ v, Version.ofChars? cs = some v ∧ v.prerelease = prerelease := by
  obtain ⟨major, minor, patch, build, hmajor, hminor, hpatch, hprerelease, hbuild, rfl⟩ := h
  -- The signs that cut a text stand nowhere before the place where they cut it.
  have hplus : '+' ∉ ['.'].intercalate [major, minor, patch] ++ after '-' prerelease := by
    rw [List.mem_append, not_or]
    exact ⟨not_mem_core (by simp) hmajor hminor hpatch, plus_not_mem_prerelease hprerelease⟩
  have hdash : '-' ∉ ['.'].intercalate [major, minor, patch] := not_mem_core (by simp) hmajor hminor hpatch
  refine ⟨⟨[major, minor, patch], prerelease, build⟩, ofChars?_eq_some_iff.2 ⟨?_, rfl, ?_, ?_, ?_⟩, rfl⟩
  · rw [cutVersion, cutAt_append hplus, cutAt_append hdash, dotted_core hmajor hminor hpatch]
  · simpa using ⟨hmajor, hminor, hpatch⟩
  · exact fun p hp => (forall_dotted_iff (fun q hq => not_mem_prerelease (by simp) hq) p).2 (hprerelease p hp)
  · exact fun b hb => (forall_dotted_iff (fun q hq => not_mem_ident hq) b).2 (hbuild b hb)

/-- A version has one prerelease at most. -/
theorem Grammar.Derives.prerelease_unique {cs : List Char} {p q : Option (List Char)}
    (hp : Grammar.decimal.Derives cs p) (hq : Grammar.decimal.Derives cs q) : p = q := by
  obtain ⟨v, hv, rfl⟩ := ofChars_of_derives hp
  obtain ⟨v', hv', rfl⟩ := ofChars_of_derives hq
  rw [Option.some.inj (hv.symm.trans hv')]

/-! ## SemVer among what is accepted -/

/-- Of the decimal digits only those of ASCII. -/
def AsciiDigits (cs : List Char) : Prop := ∀ c ∈ cs, decimalDigits.has c = true → c.isDigit = true

section
variable {digit digit' : Char → Bool} {cs : List Char}

theorem Numeric.imp (h : Numeric digit cs) (himp : ∀ c ∈ cs, digit c = true → digit' c = true) :
    Numeric digit' cs := by
  rcases h with h | ⟨c, rest, rfl, hlo, hhi, hrest⟩
  · exact .inl h
  · exact .inr ⟨c, rest, rfl, hlo, hhi, fun d hd => himp d (List.mem_cons_of_mem c hd) (hrest d hd)⟩

theorem Word.imp (h : Word digit cs) (himp : ∀ c ∈ cs, digit c = true → digit' c = true) :
    Word digit' cs := by
  obtain ⟨digits, c, rest, rfl, hdigits, hc, hrest⟩ := h
  exact ⟨digits, c, rest, rfl, fun d hd => himp d (List.mem_append_left _ hd) (hdigits d hd), hc, hrest⟩

theorem Dotted.imp {part part' : List Char → Prop} (h : Dotted part cs)
    (himp : ∀ p, (∀ c ∈ p, c ∈ cs) → part p → part' p) : Dotted part' cs := by
  obtain ⟨parts, hne, hparts, rfl⟩ := h
  exact ⟨parts, hne, fun p hp => himp p (fun c hc => mem_intercalate_of_mem hp hc) (hparts p hp), rfl⟩

theorem isIdentChar_of_isDigit {c : Char} (h : c.isDigit = true) : isIdentChar c = true := by
  simp [isIdentChar, Char.isAlphanum, h]

theorem isAlpha_of_isIdentChar {c : Char} (h : isIdentChar c = true) (hdigit : ¬ c.isDigit = true) :
    c.isAlpha = true ∨ c = '-' := by
  simpa [isIdentChar, Char.isAlphanum, hdigit] using h

theorem Numeric.ident (h : Numeric Char.isDigit cs) : Ident cs := by
  refine ⟨?_, fun c hc => isIdentChar_of_isDigit (h.digit_of_mem hc fun _ => id)⟩
  rcases h with rfl | ⟨_, _, rfl, -⟩ <;> simp

theorem Word.ident (h : Word Char.isDigit cs) : Ident cs := by
  refine ⟨?_, fun c hc => (h.has_or_isIdentChar_of_mem hc).elim isIdentChar_of_isDigit id⟩
  obtain ⟨digits, c, rest, rfl, -⟩ := h
  simp

theorem Word.not_all_isDigit (h : Word digit cs) : ¬ ∀ c ∈ cs, c.isDigit = true := by
  obtain ⟨digits, c, rest, rfl, -, hc, -⟩ := h
  intro hall
  have hhas := has_decimalDigits_of_isDigit (hall c (by simp))
  rw [not_has_decimalDigits_of_isAlpha hc] at hhas
  cases hhas

theorem Ident.word (h : Ident cs) (hsome : ¬ ∀ c ∈ cs, c.isDigit = true) : Word Char.isDigit cs := by
  have happend := List.takeWhile_append_dropWhile (p := Char.isDigit) (l := cs)
  cases hdrop : cs.dropWhile Char.isDigit with
  | nil => exact absurd (List.dropWhile_eq_nil_iff.1 hdrop) hsome
  | cons c rest =>
    have hc : ¬ c.isDigit = true := by
      have hhead := List.head?_dropWhile_not Char.isDigit cs
      rw [hdrop] at hhead
      simpa using hhead
    rw [hdrop] at happend
    have hmem : ∀ d ∈ c :: rest, d ∈ cs := fun d hd => happend ▸ List.mem_append_right _ hd
    exact ⟨_, c, rest, happend.symm, fun d hd => List.mem_takeWhile_imp hd,
      isAlpha_of_isIdentChar (h.2 c (hmem c List.mem_cons_self)) hc,
      fun d hd => h.2 d (hmem d (List.mem_cons_of_mem c hd))⟩

end

/-- SemVer is what would be accepted if only the digits of ASCII counted. -/
theorem Grammar.semver_eq : Grammar.semver = .accepted Char.isDigit := by
  have hprerelease : ∀ cs, Grammar.semver.prerelease cs ↔ Numeric Char.isDigit cs ∨ Word Char.isDigit cs := by
    intro cs
    constructor
    · rintro ⟨hident, hnumeric⟩
      by_cases hall : ∀ c ∈ cs, c.isDigit = true
      · exact .inl (hnumeric hall)
      · exact .inr (hident.word hall)
    · rintro (h | h)
      · exact ⟨h.ident, fun _ => h⟩
      · exact ⟨h.ident, fun hall => absurd hall h.not_all_isDigit⟩
  rw [Grammar.accepted, ← funext fun cs => propext (hprerelease cs)]
  rfl

namespace Grammar.Derives

variable {g g' : Grammar} {cs : List Char} {prerelease : Option (List Char)}

/-- A text is of every grammar that its parts are of. -/
theorem imp (h : g.Derives cs prerelease)
    (hnumber : ∀ p, (∀ c ∈ p, c ∈ cs) → g.number p → g'.number p)
    (hprerelease : ∀ p, (∀ c ∈ p, c ∈ cs) → g.prerelease p → g'.prerelease p)
    (hbuild : ∀ p, g.build p → g'.build p) : g'.Derives cs prerelease := by
  obtain ⟨major, minor, patch, build, hmajor, hminor, hpatch, hp, hb, rfl⟩ := h
  have hcore : ∀ part ∈ [major, minor, patch], ∀ c ∈ part,
      c ∈ ['.'].intercalate [major, minor, patch] ++ after '-' prerelease ++ after '+' build :=
    fun part hpart c hc => List.mem_append_left _ (List.mem_append_left _ (mem_intercalate_of_mem hpart hc))
  refine ⟨major, minor, patch, build, hnumber _ (hcore _ (by simp)) hmajor,
    hnumber _ (hcore _ (by simp)) hminor, hnumber _ (hcore _ (by simp)) hpatch, ?_,
    fun b h => (hb b h).imp fun _ _ => hbuild _, rfl⟩
  rintro p rfl
  refine (hp p rfl).imp fun q hq => hprerelease q fun c hc => ?_
  exact List.mem_append_left _ (List.mem_append_right _ (List.mem_cons_of_mem _ (hq c hc)))

theorem of_mem (h : g.Derives cs prerelease) {c : Char} (hc : c ∈ cs) :
    c ∈ ['.', '-', '+'] ∨ ∃ p, c ∈ p ∧ (g.number p ∨ g.prerelease p ∨ g.build p) := by
  obtain ⟨major, minor, patch, build, hmajor, hminor, hpatch, hp, hb, rfl⟩ := h
  have hparts : ∀ {part : List Char → Prop} {parts}, (∀ p ∈ parts, part p) → c ∈ ['.'].intercalate parts →
      c ∈ ['.', '-', '+'] ∨ ∃ p, c ∈ p ∧ part p := fun hpart hc =>
    (mem_intercalate hc).imp (by simp +contextual) fun ⟨p, hp, hc⟩ => ⟨p, hc, hpart p hp⟩
  have hafter : ∀ {part : List Char → Prop} {mark rest}, mark ∈ ['.', '-', '+'] →
      (∀ p ∈ rest, Dotted part p) → c ∈ after mark rest → c ∈ ['.', '-', '+'] ∨ ∃ p, c ∈ p ∧ part p := by
    intro part mark rest hmark hrest hc
    cases rest with
    | none => cases hc
    | some text =>
      obtain ⟨parts, -, hpart, rfl⟩ := hrest text rfl
      rcases List.mem_cons.1 hc with rfl | hc
      · exact .inl hmark
      · exact hparts hpart hc
  rcases List.mem_append.1 hc with hc | hc
  · rcases List.mem_append.1 hc with hc | hc
    · have hnumber : ∀ p ∈ [major, minor, patch], g.number p := by simp [hmajor, hminor, hpatch]
      exact (hparts hnumber hc).imp_right fun ⟨p, hc, h⟩ => ⟨p, hc, .inl h⟩
    · exact (hafter (by simp) hp hc).imp_right fun ⟨p, hc, h⟩ => ⟨p, hc, .inr (.inl h)⟩
  · exact (hafter (by simp) hb hc).imp_right fun ⟨p, hc, h⟩ => ⟨p, hc, .inr (.inr h)⟩

theorem asciiDigits (h : Grammar.semver.Derives cs prerelease) : AsciiDigits cs := by
  intro c hc hhas
  rcases h.of_mem hc with hmark | ⟨p, hc, hnumber | ⟨hident, -⟩ | hident⟩
  · rw [not_has_decimalDigits_of_mark hmark] at hhas
    cases hhas
  · exact Numeric.digit_of_mem hc (fun _ => id) hnumber
  all_goals
    by_contra hdigit
    rw [not_has_decimalDigits_of_isAlpha (isAlpha_of_isIdentChar (hident.2 c hc) hdigit)] at hhas
    cases hhas

end Grammar.Derives

/-- The versions of SemVer are what is accepted of the texts whose decimal digits are of ASCII. -/
theorem derives_semver_iff {cs : List Char} {prerelease : Option (List Char)} :
    Grammar.semver.Derives cs prerelease ↔ Grammar.decimal.Derives cs prerelease ∧ AsciiDigits cs := by
  constructor
  · intro h
    refine ⟨?_, h.asciiDigits⟩
    rw [Grammar.semver_eq] at h
    have hdigit : ∀ c : Char, c.isDigit = true → decimalDigits.has c = true :=
      fun _ => has_decimalDigits_of_isDigit
    exact h.imp (fun _ _ hp => hp.imp fun c _ => hdigit c)
      (fun _ _ hp => hp.imp (fun h => h.imp fun c _ => hdigit c) fun h => h.imp fun c _ => hdigit c)
      fun _ => id
  · rintro ⟨h, hascii⟩
    rw [Grammar.semver_eq]
    exact h.imp (fun _ hmem hp => hp.imp fun c hc => hascii c (hmem c hc))
      (fun _ hmem hp => hp.imp (fun h => h.imp fun c hc => hascii c (hmem c hc))
        fun h => h.imp fun c hc => hascii c (hmem c hc)) fun _ => id

/-! ## What is reported -/

/-- How a text is judged by a grammar: where any version may be, and where no prerelease may be. -/
structure Grammar.Judges (g : Grammar) (text : String) (free strict : Report) : Prop where
  release : g.Derives text.toList none → free.issues = [] ∧ strict.issues = []
  prerelease : ∀ p, g.Derives text.toList (some p) → free.issues = [] ∧ strict.issues =
    [⟨.error, Code.semverPrerelease,
      "Prerelease versions are not allowed (got '" ++ String.ofList p ++ "')", []⟩]
  invalid : (¬ ∃ p, g.Derives text.toList p) → ∀ report ∈ [free, strict], report.issues =
    [⟨.error, Code.semverInvalid, "'" ++ text ++ "' is not a valid semantic version", []⟩]

def freeSpec : String := "Semver()"

def strictSpec : String := "Semver(\x7bprerelease: false\x7d)"

theorem load_freeSpec : Registry.standard.load freeSpec = .ok (.contains (.custom "Semver" .null)) := by
  with_unfolding_all rfl

def strictProgram : Program :=
  [.expr (.call ⟨6, 1, 7⟩ (.ident ⟨0, 1, 1⟩ "Semver")
    [.object ⟨7, 1, 8⟩ [("prerelease", .bool ⟨20, 1, 21⟩ false)]])]

theorem load_strictSpec : Registry.standard.load strictSpec =
    .ok (.contains (.custom "Semver" (.object [("prerelease", .bool false)]))) := by
  have hprogram : Program.ofText strictSpec = .ok strictProgram := by with_unfolding_all rfl
  rw [Registry.load, Rule.ofText, hprogram]
  with_unfolding_all rfl

theorem run_semver {spec : String} {params : Json} {allowed : Bool} {disk : Disk} {subject : Subject}
    {text : String}
    (hload : Registry.standard.load spec = .ok (.contains (.custom "Semver" params)))
    (hparams : Check.prereleasesOf params = .ok allowed)
    (hvalue : (Context.root disk subject).value = .string text) :
    (Registry.standard.run spec disk subject).issues =
      match Version.ofChars? text.toList with
      | none => [⟨.error, Code.semverInvalid, "'" ++ text ++ "' is not a valid semantic version", []⟩]
      | some version =>
        if !allowed && version.prerelease.isSome then
          [⟨.error, Code.semverPrerelease, "Prerelease versions are not allowed (got '" ++
            String.ofList (version.prerelease.getD []) ++ "')", []⟩]
        else [] := by
  have hrun : Registry.standard.run spec disk subject =
      (Check.semver params (.root disk subject)).report := by
    rw [Registry.run, hload]
    rfl
  rw [hrun, Check.semver, hparams, hvalue]
  dsimp only
  cases Version.ofChars? text.toList with
  | none => rfl
  | some version =>
    dsimp only [Walk.when]
    split <;> rfl

section
variable (disk : Disk) (subject : Subject) {text : String}
  (hvalue : (Context.root disk subject).value = .string text)
include hvalue

theorem decimal_judges : Grammar.decimal.Judges text (Registry.standard.run freeSpec disk subject)
    (Registry.standard.run strictSpec disk subject) where
  release h := by
    obtain ⟨v, hv, hp⟩ := ofChars_of_derives h
    rw [run_semver load_freeSpec rfl hvalue, run_semver load_strictSpec rfl hvalue, hv]
    simp [hp]
  prerelease p h := by
    obtain ⟨v, hv, hp⟩ := ofChars_of_derives h
    rw [run_semver load_freeSpec rfl hvalue, run_semver load_strictSpec rfl hvalue, hv]
    simp [hp]
  invalid h := by
    have hv : Version.ofChars? text.toList = none :=
      Option.eq_none_iff_forall_ne_some.2 fun v hv => h ⟨_, derives_of_ofChars hv⟩
    have hfree := run_semver load_freeSpec rfl hvalue
    have hstrict := run_semver load_strictSpec rfl hvalue
    rw [hv] at hfree hstrict
    simp [hfree, hstrict]

/-- A text is judged by any decimal digits. By SemVer it is judged as well, unless what is accepted has a
digit that is not of ASCII. -/
theorem versions_judged :
    Grammar.decimal.Judges text (Registry.standard.run freeSpec disk subject)
      (Registry.standard.run strictSpec disk subject) ∧
    (Grammar.semver.Judges text (Registry.standard.run freeSpec disk subject)
      (Registry.standard.run strictSpec disk subject) ↔
      ((∃ p, Grammar.decimal.Derives text.toList p) → AsciiDigits text.toList)) := by
  have hdecimal := decimal_judges disk subject hvalue
  refine ⟨hdecimal, fun hsemver ⟨p, hp⟩ => ?_, fun hascii => ?_⟩
  · have hfree : (Registry.standard.run freeSpec disk subject).issues = [] := by
      cases p with
      | none => exact (hdecimal.release hp).1
      | some p => exact (hdecimal.prerelease p hp).1
    by_contra hnot
    have hnone : ¬ ∃ p, Grammar.semver.Derives text.toList p := fun ⟨_, h⟩ => hnot h.asciiDigits
    have hinvalid := hsemver.invalid hnone _ List.mem_cons_self
    rw [hfree] at hinvalid
    cases hinvalid
  · exact {
      release h := hdecimal.release (derives_semver_iff.1 h).1
      prerelease p h := hdecimal.prerelease p (derives_semver_iff.1 h).1
      invalid hnone := hdecimal.invalid fun ⟨p, hp⟩ =>
        hnone ⟨p, derives_semver_iff.2 ⟨hp, hascii ⟨p, hp⟩⟩⟩ }

end

/-- A candidate for a release is a version, but not where no prerelease may be. -/
theorem versions_judged_candidate :
    (Context.root default (.value (.string "2.0.0-rc.1"))).value = .string "2.0.0-rc.1" ∧
      Grammar.semver.Derives "2.0.0-rc.1".toList (some "rc.1".toList) ∧
      (Registry.standard.run freeSpec default (.value (.string "2.0.0-rc.1"))).issues = [] ∧
      (Registry.standard.run strictSpec default (.value (.string "2.0.0-rc.1"))).issues =
        [⟨.error, Code.semverPrerelease, "Prerelease versions are not allowed (got 'rc.1')", []⟩] := by
  have hderives : Grammar.semver.Derives "2.0.0-rc.1".toList (some "rc.1".toList) := by
    refine ⟨['2'], ['0'], ['0'], none, .inr ⟨'2', [], rfl, by decide, by decide, nofun⟩, .inl rfl,
      .inl rfl, ?_, nofun, by decide⟩
    rintro p ⟨⟩
    refine ⟨[['r', 'c'], ['1']], nofun, ?_, by decide⟩
    have hparts : ∀ q ∈ [['r', 'c'], ['1']], isBuildIdent q = true ∧
        (q.all Char.isDigit = true → q = ['1']) := by
      decide
    refine fun q hq => ⟨(isBuildIdent_iff q).1 (hparts q hq).1, fun hall => ?_⟩
    rw [(hparts q hq).2 (List.all_eq_true.2 hall)]
    exact .inr ⟨'1', [], rfl, by decide, by decide, nofun⟩
  have hjudges := (versions_judged default (.value (.string "2.0.0-rc.1")) rfl).2.2
    fun _ => hderives.asciiDigits
  obtain ⟨hfree, hstrict⟩ := hjudges.prerelease _ hderives
  exact ⟨rfl, hderives, hfree, hstrict⟩

/-- A digit of another script may follow the first digit of a number. -/
theorem not_semver_judges :
    (Registry.standard.run freeSpec default (.value (.string "1٠.0.0"))).issues = [] ∧
      (¬ ∃ p, Grammar.semver.Derives "1٠.0.0".toList p) ∧
      ¬ Grammar.semver.Judges "1٠.0.0" (Registry.standard.run freeSpec default (.value (.string "1٠.0.0")))
        (Registry.standard.run strictSpec default (.value (.string "1٠.0.0"))) := by
  have hzero : decimalDigits.has '٠' = true := (Category.holds_decimalNumber (by decide)).2 (.inr (by decide))
  have haccepted : Grammar.decimal.Derives "1٠.0.0".toList none :=
    ⟨['1', '٠'], ['0'], ['0'], none,
      .inr ⟨'1', ['٠'], rfl, by decide, by decide, fun d hd => List.mem_singleton.1 hd ▸ hzero⟩,
      .inl rfl, .inl rfl, nofun, nofun, by decide⟩
  have hfree := ((decimal_judges default (.value (.string "1٠.0.0")) rfl).release haccepted).1
  have hnone : ¬ ∃ p, Grammar.semver.Derives "1٠.0.0".toList p := fun ⟨_, h⟩ => by
    have hdigit := h.asciiDigits '٠' (by decide) hzero
    revert hdigit
    decide
  refine ⟨hfree, hnone, fun hjudges => ?_⟩
  have hinvalid := hjudges.invalid hnone _ List.mem_cons_self
  rw [hfree] at hinvalid
  cases hinvalid

end Rulebook.Semver
