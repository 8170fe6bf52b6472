import Mathlib.Data.List.TakeWhile
import Rulebook.Proofs.Lexing
import Rulebook.Proofs.Trivia

/-!
# How tokens are spelled

A token may be written again from its kind alone, but for a number, which keeps the characters it was read
from. Where a token may end, what was written is read as the same token.
-/

namespace Rulebook

/-! ## Spellings -/

/-- How a character is written in double quotes. -/
def inQuotes (c : Char) : List Char :=
  if c = '\\' then ['\\', '\\']
  else if c = '"' then ['\\', '"']
  else if c = '\n' then ['\\', 'n']
  else [c]

/-- How a character of a pattern is written between slashes. -/
def inSlashes (c : Char) : List Char := if c = '/' then ['\\', '/'] else [c]

/-- How a token is written that was read from `source`. -/
def TokenKind.spelling (source : List Char) : TokenKind → List Char
  | number _ => source
  | string s => '"' :: (s.toList.flatMap inQuotes ++ ['"'])
  | regex pattern flags => '/' :: (pattern.toList.flatMap inSlashes ++ '/' :: flags.toList)
  | ident name => name.toList
  | letWord => ['l', 'e', 't']
  | trueWord => ['t', 'r', 'u', 'e']
  | falseWord => ['f', 'a', 'l', 's', 'e']
  | nullWord => ['n', 'u', 'l', 'l']
  | lparen => ['(']
  | rparen => [')']
  | lbracket => ['[']
  | rbracket => [']']
  | lbrace => ['\x7b']
  | rbrace => ['\x7d']
  | comma => [',']
  | colon => [':']
  | semi => [';']
  | dot => ['.']
  | arrow => ['=', '>']
  | eq => ['=']
  | minus => ['-']

/-- Wherever a token may end after it, the word is read as this token. -/
def Respells (word : List Char) (kind : TokenKind) : Prop :=
  ∃ d ds, word = d :: ds ∧ ∀ rest, Stops rest → Begins d (ds ++ rest) ∧
    ∀ p, ∃ q, readToken d (ds ++ rest) p = .ok (kind, ⟨rest, q⟩)

/-! ## Characters -/

theorem isBlank_of_isWordChar {c : Char} (h : isWordChar c = true) : isBlank c = false := by
  have hrange : 48 ≤ c.toNat ∧ c.toNat ≤ 122 := by
    unfold isWordChar Char.isAlphanum Char.isAlpha Char.isUpper Char.isLower Char.isDigit at h
    simp only [Bool.or_eq_true, Bool.and_eq_true, decide_eq_true_eq, UInt32.le_iff_toNat_le,
      ge_iff_le] at h
    obtain h | rfl := h
    · have : c.toNat = c.val.toNat := rfl
      have : 'Z'.val.toNat = 90 := rfl
      have : '9'.val.toNat = 57 := rfl
      have : 'z'.val.toNat = 122 := rfl
      have : 'A'.val.toNat = 65 := rfl
      have : '0'.val.toNat = 48 := rfl
      have : 'a'.val.toNat = 97 := rfl
      omega
    · decide
  simp only [isBlank, Bool.or_eq_false_iff, Bool.and_eq_false_imp, decide_eq_false_iff_not,
    decide_eq_true_eq]
  omega

theorem isWordChar_of_isDigit {c : Char} (h : c.isDigit = true) : isWordChar c = true := by
  simp [isWordChar, Char.isAlphanum, h]

theorem isWordChar_of_isAlpha {c : Char} (h : c.isAlpha = true) : isWordChar c = true := by
  simp [isWordChar, Char.isAlphanum, h]

theorem isWordChar_of_isRegexFlag {c : Char} (h : isRegexFlag c = true) : isWordChar c = true := by
  unfold isRegexFlag at h
  simp only [Bool.or_eq_true, decide_eq_true_eq] at h
  obtain ((rfl | rfl) | rfl) | rfl := h <;> decide

theorem isWordChar_of_isWordStart {c : Char} (h : isWordStart c = true) : isWordChar c = true := by
  unfold isWordStart at h
  rw [Bool.or_eq_true] at h
  obtain h | h := h
  · exact isWordChar_of_isAlpha h
  · simp [isWordChar, h]

theorem begins_word {d : Char} (h : isWordChar d = true) (ds : List Char) : Begins d ds where
  not_blank := isBlank_of_isWordChar h
  not_comment := by
    rintro rfl
    exact absurd h (by decide)

/-- No word goes on where a token may end. -/
theorem Stops.not_isWordChar {rest : List Char} (h : Stops rest) :
    ∀ c ∈ rest.head?, isWordChar c = false := by
  intro c hc
  rw [Bool.eq_false_iff]
  intro hword
  obtain hblank | rfl := h c hc
  · rw [isBlank_of_isWordChar hword] at hblank
    cases hblank
  · exact absurd hword (by decide)

theorem Stops.not_of_word {rest : List Char} (h : Stops rest) {p : Char → Bool}
    (hp : ∀ c, p c = true → isWordChar c = true) : ∀ c ∈ rest.head?, p c = false := by
  intro c hc
  rw [Bool.eq_false_iff]
  intro hpc
  cases (h.not_isWordChar c hc).symm.trans (hp c hpc)

theorem Cursor.span_append {f : Char → Bool} {cs rest : List Char} (h : ∀ c ∈ cs, f c = true)
    (hrest : ∀ c ∈ rest.head?, f c = false) (p : Position) :
    Cursor.span ⟨cs ++ rest, p⟩ f = (cs, ⟨rest, p.after cs⟩) := by
  have htake : rest.takeWhile f = [] := by
    cases rest with
    | nil => rfl
    | cons c rest => simp [hrest c rfl]
  have hdrop : rest.dropWhile f = rest := by
    cases rest with
    | nil => rfl
    | cons c rest => simp [hrest c rfl]
  simp only [span, List.takeWhile_append_of_pos h, List.dropWhile_append_of_pos h, htake, hdrop,
    List.append_nil]

/-! ## Marks and words -/

theorem respells_mark {c : Char} {kind : TokenKind} (h : singleKind c = some kind) : Respells [c] kind := by
  refine ⟨c, [], rfl, fun rest _ => ⟨?_, fun p => ⟨_, readToken_mark h rest p⟩⟩⟩
  exact begins_of_skipTrivia (skipTrivia_mark h rest .start)

theorem spelling_mark {c : Char} {kind : TokenKind} (h : singleKind c = some kind) (source : List Char) :
    kind.spelling source = [c] := by
  unfold singleKind at h
  split at h
  case h_12 => cases h
  all_goals
    cases h
    rfl

theorem respells_arrow : Respells ['=', '>'] .arrow :=
  ⟨'=', ['>'], rfl, fun _ _ => ⟨⟨rfl, nofun⟩, fun _ => ⟨_, rfl⟩⟩⟩

theorem readToken_eq {cs : List Char} (h : cs.head? ≠ some '>') (p : Position) :
    readToken '=' cs p = .ok (.eq, ⟨cs, p.next '='⟩) := by
  have hmark : singleKind '=' = none := rfl
  unfold readToken
  rw [hmark]
  dsimp only
  rw [if_pos rfl]
  split
  · exact (h rfl).elim
  · rfl

theorem respells_eq : Respells ['='] .eq := by
  refine ⟨'=', [], rfl, fun rest hrest => ⟨⟨rfl, by simp⟩, fun p => ⟨_, readToken_eq ?_ p⟩⟩⟩
  intro hhead
  exact absurd (hrest '>' hhead) (by decide)

theorem singleKind_of_isWordChar {c : Char} (h : isWordChar c = true) : singleKind c = none := by
  unfold singleKind
  split
  case h_12 => rfl
  all_goals exact absurd h (by decide)

theorem readToken_word {d : Char} (h : isWordStart d = true) (hdigit : d.isDigit = false) (ds : List Char)
    (p : Position) : readToken d ds p = .ok (readWord ⟨d :: ds, p⟩) := by
  have hword := isWordChar_of_isWordStart h
  have hne : ∀ c, isWordChar c = false → d ≠ c := by
    rintro c hc rfl
    cases hc.symm.trans hword
  unfold readToken
  rw [singleKind_of_isWordChar hword]
  simp only [hne '=' (by decide), hne '"' (by decide), hne '\'' (by decide), hne '/' (by decide), hdigit, h,
    or_self, if_false, if_true, Bool.false_eq_true]

theorem readToken_digit {d : Char} (h : d.isDigit = true) (ds : List Char) (p : Position) :
    readToken d ds p = readNumber ⟨d :: ds, p⟩ := by
  have hword := isWordChar_of_isDigit h
  have hne : ∀ c, isWordChar c = false → d ≠ c := by
    rintro c hc rfl
    cases hc.symm.trans hword
  unfold readToken
  rw [singleKind_of_isWordChar hword]
  simp only [hne '=' (by decide), hne '"' (by decide), hne '\'' (by decide), hne '/' (by decide), h,
    or_self, if_false, if_true]

theorem spelling_ofWord (source word : List Char) : (TokenKind.ofWord word).spelling source = word := by
  unfold TokenKind.ofWord
  split
  case h_5 => exact String.toList_ofList
  all_goals
    rename_i h
    rw [← String.toList_ofList (l := word), h]
    rfl

theorem respells_word {d : Char} {ds : List Char} (h : isWordStart d = true) (hdigit : d.isDigit = false)
    (hword : ∀ c ∈ ds, isWordChar c = true) : Respells (d :: ds) (.ofWord (d :: ds)) := by
  have hall : ∀ c ∈ d :: ds, isWordChar c = true :=
    List.forall_mem_cons.2 ⟨isWordChar_of_isWordStart h, hword⟩
  refine ⟨d, ds, rfl, fun rest hrest => ⟨begins_word (hall d List.mem_cons_self) _, fun p => ⟨p.after (d :: ds), ?_⟩⟩⟩
  rw [readToken_word h hdigit, readWord, ← List.cons_append, Cursor.span_append hall hrest.not_isWordChar]

/-! ## Strings -/

theorem readString_escape {e c : Char} (h : escapedAs e = some c) (start p : Position)
    (cs read : List Char) :
    readString '"' start ('\\' :: e :: cs) p read =
      readString '"' start cs ((p.next '\\').next e) (c :: read) := by
  have hu : e ≠ 'u' := by
    rintro rfl
    cases h
  rw [readString.eq_def]
  dsimp only
  rw [if_neg (by decide), if_neg (by decide), if_pos rfl, if_neg hu, h]

theorem readString_inQuotes_char (c : Char) (start p : Position) (cs read : List Char) :
    ∃ q, readString '"' start (inQuotes c ++ cs) p read = readString '"' start cs q (c :: read) := by
  unfold inQuotes
  split
  · rename_i h
    subst h
    exact ⟨_, readString_escape rfl start p cs read⟩
  split
  · rename_i h
    subst h
    exact ⟨_, readString_escape rfl start p cs read⟩
  split
  · rename_i h
    subst h
    exact ⟨_, readString_escape rfl start p cs read⟩
  · rename_i hbackslash hquote hnewline
    refine ⟨p.next c, ?_⟩
    rw [List.singleton_append, readString.eq_def]
    dsimp only
    rw [if_neg hnewline, if_neg hquote, if_neg hbackslash]

theorem readString_inQuotes (start p : Position) (cs read rest : List Char) :
    ∃ q, readString '"' start (cs.flatMap inQuotes ++ '"' :: rest) p read =
      .ok (.string (String.ofList (read.reverse ++ cs)), ⟨rest, q⟩) := by
  induction cs generalizing p read with
  | nil =>
    refine ⟨p.next '"', ?_⟩
    rw [List.flatMap_nil, List.nil_append, List.append_nil, readString.eq_def]
    dsimp only
    rw [if_neg (by decide), if_pos rfl]
  | cons c cs ih =>
    obtain ⟨p', hc⟩ := readString_inQuotes_char c start p (cs.flatMap inQuotes ++ '"' :: rest) read
    obtain ⟨q, hcs⟩ := ih p' (c :: read)
    refine ⟨q, ?_⟩
    rw [List.flatMap_cons, List.append_assoc, hc, hcs, List.reverse_cons, List.append_assoc,
      List.singleton_append]

theorem respells_string (source : List Char) (s : String) :
    Respells (TokenKind.spelling source (.string s)) (.string s) := by
  refine ⟨'"', _, rfl, fun rest _ => ⟨⟨rfl, nofun⟩, fun p => ?_⟩⟩
  obtain ⟨q, hq⟩ := readString_inQuotes p (p.next '"') s.toList [] rest
  refine ⟨q, ?_⟩
  rw [List.reverse_nil, List.nil_append, String.ofList_toList] at hq
  rw [List.append_assoc, List.singleton_append]
  exact hq

theorem readString_string {quote : Char} {start p : Position} {cs read : List Char} {kind : TokenKind}
    {d : Cursor} (h : readString quote start cs p read = .ok (kind, d)) : ∃ s, kind = .string s := by
  fun_induction readString quote start cs p read with
  | case3 => cases h; exact ⟨_, rfl⟩
  | case5 | case8 | case10 => exact ‹_ → ∃ s, kind = .string s› h
  | _ => cases h

/-! ## Regexes -/

theorem readPattern_escape (e : Char) (start p : Position) (inClass : Bool) (cs read : List Char) :
    readPattern start ('\\' :: e :: cs) p inClass read =
      readPattern start cs ((p.next '\\').next e) inClass
        (if e = '/' then e :: read else e :: '\\' :: read) := by
  rw [readPattern.eq_def]
  dsimp only
  rw [if_neg (by decide), if_pos rfl]

/-- Whether a slash is in brackets after the character. -/
def classAfter (c : Char) (inClass : Bool) : Bool :=
  if c = '[' then true else if c = ']' then false else inClass

theorem readPattern_char {c : Char} (hnewline : c ≠ '\n') (hbackslash : c ≠ '\\') {inClass : Bool}
    (hslash : ¬ (c = '/' ∧ inClass = false)) (start p : Position) (cs read : List Char) :
    readPattern start (c :: cs) p inClass read =
      readPattern start cs (p.next c) (classAfter c inClass) (c :: read) := by
  rw [readPattern.eq_def]
  dsimp only
  rw [if_neg hnewline, if_neg hbackslash]
  rw [if_neg hslash]
  unfold classAfter
  split
  · rfl
  split
  · rfl
  · rfl

/-- A pattern that is read, if its slashes are escaped, as it is. -/
def Rereads (inClass : Bool) (pattern : List Char) : Prop :=
  ∀ start p read rest, ∃ q, readPattern start (pattern.flatMap inSlashes ++ '/' :: rest) p inClass read =
    .ok (read.reverse ++ pattern, ⟨rest, q⟩)

namespace Rereads

variable {inClass : Bool} {pattern : List Char}

theorem nil : Rereads false [] := by
  intro start p read rest
  refine ⟨p.next '/', ?_⟩
  rw [List.flatMap_nil, List.nil_append, List.append_nil, readPattern.eq_def]
  rfl

theorem slash (h : Rereads inClass pattern) : Rereads inClass ('/' :: pattern) := by
  intro start p read rest
  obtain ⟨q, hq⟩ := h start ((p.next '\\').next '/') ('/' :: read) rest
  refine ⟨q, ?_⟩
  rw [List.flatMap_cons, inSlashes, if_pos rfl]
  simp only [List.cons_append, List.nil_append]
  rw [readPattern_escape, if_pos rfl, hq, List.reverse_cons, List.append_assoc, List.singleton_append]

theorem escape {e : Char} (he : e ≠ '/') (h : Rereads inClass pattern) :
    Rereads inClass ('\\' :: e :: pattern) := by
  intro start p read rest
  obtain ⟨q, hq⟩ := h start ((p.next '\\').next e) (e :: '\\' :: read) rest
  refine ⟨q, ?_⟩
  rw [List.flatMap_cons, List.flatMap_cons, inSlashes, if_neg (by decide), inSlashes, if_neg he]
  simp only [List.cons_append, List.nil_append]
  rw [readPattern_escape, if_neg he, hq]
  simp

theorem char {c : Char} (hnewline : c ≠ '\n') (hbackslash : c ≠ '\\') (hslash : c ≠ '/')
    (h : Rereads (classAfter c inClass) pattern) : Rereads inClass (c :: pattern) := by
  intro start p read rest
  obtain ⟨q, hq⟩ := h start (p.next c) (c :: read) rest
  refine ⟨q, ?_⟩
  rw [List.flatMap_cons, inSlashes, if_neg hslash]
  simp only [List.cons_append, List.nil_append]
  rw [readPattern_char hnewline hbackslash fun hc => hslash hc.1, hq, List.reverse_cons,
    List.append_assoc, List.singleton_append]

end Rereads

/-- The rest of a pattern is read again, and begins as it did before. -/
theorem readPattern_rereads {start p : Position} {cs read pattern : List Char} {inClass : Bool}
    {d : Cursor} (h : readPattern start cs p inClass read = .ok (pattern, d)) :
    ∃ body, pattern = read.reverse ++ body ∧ Rereads inClass body ∧
      (cs.head? ≠ some '/' → (body.flatMap inSlashes).head? = cs.head?) := by
  fun_induction readPattern start cs p inClass read with
  | case1 | case2 | case3 => cases h
  | case4 p inClass read e es hnewline ih =>
    obtain ⟨body, rfl, hbody, -⟩ := ih h
    -- An escaped slash was read without its backslash; any other escape is kept as it stands.
    split
    · rename_i he
      subst he
      exact ⟨'/' :: body, by simp, hbody.slash, fun _ => rfl⟩
    · rename_i he
      exact ⟨'\\' :: e :: body, by simp, hbody.escape he, fun _ => rfl⟩
  | case5 cs p inClass read _ _ ih =>
    obtain ⟨body, rfl, hbody, -⟩ := ih h
    exact ⟨'[' :: body, by simp, .char (by decide) (by decide) (by decide) hbody, fun _ => rfl⟩
  | case6 cs p inClass read _ _ _ ih =>
    obtain ⟨body, rfl, hbody, -⟩ := ih h
    exact ⟨']' :: body, by simp, .char (by decide) (by decide) (by decide) hbody, fun _ => rfl⟩
  | case7 c cs p inClass read _ _ _ _ hcloses =>
    cases h
    obtain ⟨rfl, rfl⟩ := hcloses
    exact ⟨[], by simp, .nil, fun hhead => absurd rfl hhead⟩
  | case8 c cs p inClass read hnewline hbackslash hopen hclose _ ih =>
    obtain ⟨body, rfl, hbody, -⟩ := ih h
    by_cases hslash : c = '/'
    -- A bare slash, in brackets, is written with a backslash like any other.
    · subst hslash
      exact ⟨'/' :: body, by simp, hbody.slash, fun hhead => absurd rfl hhead⟩
    · refine ⟨c :: body, by simp, .char hnewline hbackslash hslash ?_, fun _ => ?_⟩
      · rwa [classAfter, if_neg hopen, if_neg hclose]
      · rw [List.flatMap_cons, inSlashes, if_neg hslash]
        rfl

theorem readFlags_all {c next : Cursor} {flags : List Char} (h : readFlags c = .ok (flags, next)) :
    ∀ f ∈ flags, isRegexFlag f = true := by
  have hall : ∀ f ∈ (c.span isRegexFlag).1, isRegexFlag f = true := fun _ => List.mem_takeWhile_imp
  unfold readFlags at h
  dsimp only at h
  split at h
  · split at h
    · cases h
    · cases h
      exact hall
  · cases h
    exact hall

theorem readFlags_append {flags rest : List Char} (h : ∀ f ∈ flags, isRegexFlag f = true)
    (hrest : Stops rest) (p : Position) :
    readFlags ⟨flags ++ rest, p⟩ = .ok (flags, ⟨rest, p.after flags⟩) := by
  have halpha := hrest.not_of_word fun _ => isWordChar_of_isAlpha
  unfold readFlags
  rw [Cursor.span_append h (hrest.not_of_word fun _ => isWordChar_of_isRegexFlag)]
  cases rest with
  | nil => rfl
  | cons d rest => simp [halpha d rfl]

theorem respells_regex (source : List Char) {ds : List Char} {p : Position} {kind : TokenKind}
    {next : Cursor} (hbegins : Begins '/' ds) (h : readRegex p ⟨ds, p.next '/'⟩ = .ok (kind, next)) :
    Respells (kind.spelling source) kind := by
  unfold readRegex at h
  dsimp only [bind, Except.bind] at h
  split at h
  · cases h
  rename_i result hpattern
  obtain ⟨pattern, c⟩ := result
  split at h
  · cases h
  rename_i result hflags
  obtain ⟨flags, d⟩ := result
  cases h
  have hall := readFlags_all hflags
  obtain ⟨body, hpatternBody, hbody, hhead⟩ := readPattern_rereads hpattern
  obtain rfl : pattern = body := hpatternBody
  have hstart := hhead (hbegins.not_comment rfl).1
  simp only [TokenKind.spelling, String.toList_ofList]
  refine ⟨'/', _, rfl, fun rest hrest => ?_⟩
  rw [List.append_assoc, List.cons_append]
  refine ⟨⟨rfl, fun _ => ?_⟩, fun q => ?_⟩
  -- Behind the first slash stands what stood there before, so it does not open a comment.
  · cases ds with
    | nil => cases hpattern
    | cons first ds =>
      rw [List.head?_append, hstart]
      exact hbegins.not_comment rfl
  · obtain ⟨q', hq⟩ := hbody q (q.next '/') [] (flags ++ rest)
    refine ⟨q'.after flags, ?_⟩
    show readRegex q ⟨_, q.next '/'⟩ = _
    unfold readRegex
    dsimp only [bind, Except.bind]
    rw [hq]
    dsimp only
    rw [readFlags_append hall hrest]
    rfl

/-! ## Numbers -/

/-- The characters that the digits after a point are read from. -/
inductive FractionChars : List Char → List Char → Prop
  | none : FractionChars [] []
  | some {digits : List Char} (hne : digits ≠ []) (hdigits : ∀ c ∈ digits, c.isDigit = true) :
      FractionChars digits ('.' :: digits)

/-- The characters that an exponent is read from. -/
inductive ExponentChars : Option (Option Char × List Char) → List Char → Prop
  | none : ExponentChars .none []
  | some {mark : Char} {sign : Option Char} {digits : List Char} (hmark : mark = 'e' ∨ mark = 'E')
      (hsign : ∀ s ∈ sign, s = '+' ∨ s = '-') (hne : digits ≠ [])
      (hdigits : ∀ c ∈ digits, c.isDigit = true) :
      ExponentChars (.some (sign, digits)) (mark :: (sign.toList ++ digits))

theorem span_digits (c : Cursor) :
    (∀ d ∈ (c.span Char.isDigit).1, d.isDigit = true) ∧
      c.rest = (c.span Char.isDigit).1 ++ (c.span Char.isDigit).2.rest :=
  ⟨fun _ => List.mem_takeWhile_imp, List.takeWhile_append_dropWhile.symm⟩

theorem readFraction_chars (c : Cursor) :
    ∃ cs, FractionChars (readFraction c).1 cs ∧ c.rest = cs ++ (readFraction c).2.rest := by
  unfold readFraction
  split
  · rename_i d ds hrest
    split
    · rename_i hd
      obtain ⟨hdigits, hall⟩ := span_digits (c.drop 1)
      refine ⟨'.' :: ((c.drop 1).span Char.isDigit).1, .some ?_ hdigits, ?_⟩
      · simp [Cursor.span, Cursor.drop, hrest, hd]
      · rw [List.cons_append, ← hall, hrest]
        simp [Cursor.drop, hrest]
    · exact ⟨[], .none, rfl⟩
  · exact ⟨[], .none, rfl⟩

theorem readSign_chars (c : Cursor) :
    (∀ s ∈ (readSign c).1, s = '+' ∨ s = '-') ∧
      c.rest = (readSign c).1.toList ++ (readSign c).2.rest := by
  unfold readSign
  split
  · rename_i hrest
    simp [Cursor.drop, hrest]
  · rename_i hrest
    simp [Cursor.drop, hrest]
  · simp

theorem readExponent_chars {c d : Cursor} {exp : Option (Option Char × List Char)}
    (h : readExponent c = .ok (exp, d)) : ∃ cs, ExponentChars exp cs ∧ c.rest = cs ++ d.rest := by
  unfold readExponent at h
  split at h
  · rename_i mark ds hrest
    split at h
    · rename_i hmark
      dsimp only at h
      split at h
      · cases h
      · rename_i hne
        cases h
        obtain ⟨hsign, hafter⟩ := readSign_chars (c.drop 1)
        obtain ⟨hdigits, hall⟩ := span_digits (readSign (c.drop 1)).2
        refine ⟨_, .some hmark hsign (by simpa using hne) hdigits, ?_⟩
        rw [List.cons_append, List.append_assoc, ← hall, ← hafter, hrest]
        simp [Cursor.drop, hrest]
    · cases h
      exact ⟨[], .none, rfl⟩
  · cases h
    exact ⟨[], .none, rfl⟩

/-- What neither goes on with a number nor with its fraction. -/
def EndsFraction (rest : List Char) : Prop := ∀ c ∈ rest.head?, c ≠ '.' ∧ c.isDigit = false

theorem Stops.endsFraction {rest : List Char} (h : Stops rest) : EndsFraction rest := by
  intro c hc
  refine ⟨?_, h.not_of_word (fun _ => isWordChar_of_isDigit) c hc⟩
  rintro rfl
  exact absurd (h '.' hc) (by decide)

theorem ExponentChars.endsFraction {exp : Option (Option Char × List Char)} {cs rest : List Char}
    (h : ExponentChars exp cs) (hrest : Stops rest) : EndsFraction (cs ++ rest) := by
  cases h with
  | none => exact hrest.endsFraction
  | some hmark =>
    rintro c hc
    obtain rfl : _ = c := by simpa using hc
    obtain rfl | rfl := hmark <;> decide

theorem FractionChars.not_isDigit {frac cs rest : List Char} (h : FractionChars frac cs)
    (hrest : EndsFraction rest) : ∀ c ∈ (cs ++ rest).head?, c.isDigit = false := by
  cases h with
  | none => exact fun c hc => (hrest c hc).2
  | some =>
    rintro c hc
    obtain rfl : _ = c := by simpa using hc
    decide

theorem readFraction_append {frac cs rest : List Char} (h : FractionChars frac cs)
    (hrest : EndsFraction rest) (p : Position) :
    ∃ q, readFraction ⟨cs ++ rest, p⟩ = (frac, ⟨rest, q⟩) := by
  cases h with
  | none =>
    refine ⟨p, ?_⟩
    unfold readFraction
    split
    · rename_i hpoint
      rw [List.nil_append] at hpoint
      subst hpoint
      exact absurd rfl (hrest '.' (by simp)).1
    · rfl
  | some hne hdigits =>
    refine ⟨(p.next '.').after frac, ?_⟩
    obtain ⟨d, ds, rfl⟩ := List.exists_cons_of_ne_nil hne
    show (if d.isDigit = true then _ else _) = _
    rw [if_pos (hdigits d List.mem_cons_self)]
    exact Cursor.span_append hdigits (fun c hc => (hrest c hc).2) _

theorem readSign_append {sign : Option Char} {digits : List Char} (hsign : ∀ s ∈ sign, s = '+' ∨ s = '-')
    (hne : digits ≠ []) (hdigits : ∀ c ∈ digits, c.isDigit = true) (rest : List Char) (p : Position) :
    ∃ q, readSign ⟨sign.toList ++ digits ++ rest, p⟩ = (sign, ⟨digits ++ rest, q⟩) := by
  cases sign with
  | none =>
    refine ⟨p, ?_⟩
    obtain ⟨d, ds, rfl⟩ := List.exists_cons_of_ne_nil hne
    have hd := hdigits d List.mem_cons_self
    unfold readSign
    split
    · rename_i hplus
      cases hplus
      cases hd
    · rename_i hminus
      cases hminus
      cases hd
    · rfl
  | some s =>
    obtain rfl | rfl := hsign s rfl
    · exact ⟨p.next '+', rfl⟩
    · exact ⟨p.next '-', rfl⟩

theorem readExponent_append {exp : Option (Option Char × List Char)} {cs rest : List Char}
    (h : ExponentChars exp cs) (hrest : Stops rest) (p : Position) :
    ∃ q, readExponent ⟨cs ++ rest, p⟩ = .ok (exp, ⟨rest, q⟩) := by
  cases h with
  | none =>
    refine ⟨p, ?_⟩
    have hword := hrest.not_isWordChar
    unfold readExponent
    split
    · rename_i mark ds hmark
      rw [List.nil_append] at hmark
      subst hmark
      -- What stops a token is no letter, so no exponent begins here.
      have hmark : ¬ (mark = 'e' ∨ mark = 'E') := by
        rintro (rfl | rfl) <;> exact absurd (hword _ rfl) (by decide)
      rw [if_neg hmark]
      rfl
    · rfl
  | @some mark sign digits hmark hsign hne hdigits =>
    obtain ⟨q, hq⟩ := readSign_append hsign hne hdigits rest (p.next mark)
    have hspan := Cursor.span_append hdigits (hrest.not_of_word fun _ => isWordChar_of_isDigit) q
    refine ⟨q.after digits, ?_⟩
    have hdrop : Cursor.drop ⟨mark :: (sign.toList ++ digits ++ rest), p⟩ 1 =
        ⟨sign.toList ++ digits ++ rest, p.next mark⟩ := rfl
    unfold readExponent
    rw [List.cons_append]
    simp only [hmark, hdrop, hq, hspan, if_true, List.isEmpty_iff, hne, if_false]

/-- The characters that a number is read from. -/
inductive NumberChars (n : Numeral) : List Char → Prop
  | mk {fracChars expChars : List Char} (hwhole : ∀ c ∈ n.whole, c.isDigit = true)
      (hfrac : FractionChars n.frac fracChars) (hexp : ExponentChars n.exp expChars) :
      NumberChars n (n.whole ++ (fracChars ++ expChars))

theorem readNumber_chars {c next : Cursor} {kind : TokenKind} (h : readNumber c = .ok (kind, next)) :
    ∃ n cs, kind = .number n ∧ NumberChars n cs ∧ c.rest = cs ++ next.rest := by
  obtain ⟨hwhole, hall⟩ := span_digits c
  unfold readNumber at h
  generalize c.span Char.isDigit = result at h hwhole hall
  obtain ⟨whole, afterWhole⟩ := result
  obtain ⟨fracChars, hfrac, hafter⟩ := readFraction_chars afterWhole
  dsimp only at h hwhole hall
  generalize readFraction afterWhole = result at h hfrac hafter
  obtain ⟨frac, afterFrac⟩ := result
  dsimp only [bind, Except.bind] at h hfrac hafter
  split at h
  · cases h
  rename_i result hexp
  obtain ⟨exp, afterExp⟩ := result
  cases h
  obtain ⟨expChars, hexpChars, hend⟩ := readExponent_chars hexp
  refine ⟨⟨whole, frac, exp⟩, _, rfl, .mk hwhole hfrac hexpChars, ?_⟩
  rw [hall, hafter, hend, List.append_assoc, List.append_assoc]

theorem readNumber_append {n : Numeral} {cs rest : List Char} (h : NumberChars n cs) (hrest : Stops rest)
    (p : Position) : ∃ q, readNumber ⟨cs ++ rest, p⟩ = .ok (.number n, ⟨rest, q⟩) := by
  obtain ⟨hwhole, hfrac, hexp⟩ := h
  have hends := hexp.endsFraction hrest
  obtain ⟨p', hfraction⟩ := readFraction_append hfrac hends (p.after n.whole)
  obtain ⟨q, hexponent⟩ := readExponent_append hexp hrest p'
  refine ⟨q, ?_⟩
  unfold readNumber
  rw [List.append_assoc, List.append_assoc, Cursor.span_append hwhole (hfrac.not_isDigit hends)]
  dsimp only [bind, Except.bind]
  rw [hfraction]
  dsimp only
  rw [hexponent]

theorem respells_number {d : Char} {ds source : List Char} {p : Position} {kind : TokenKind}
    {next : Cursor} (hd : d.isDigit = true) (h : readNumber ⟨d :: ds, p⟩ = .ok (kind, next))
    (hsource : d :: ds = source ++ next.rest) : Respells (kind.spelling source) kind := by
  obtain ⟨n, cs, rfl, hchars, hall⟩ := readNumber_chars h
  obtain rfl : source = cs := List.append_cancel_right (hsource.symm.trans hall)
  show Respells source _
  cases source with
  -- A number is never read from nothing.
  | nil =>
    have hle := ((readNumber_follows h).trans (Cursor.span_cons_follows hd ds p)).length_le
    rw [List.nil_append] at hsource
    rw [← hsource] at hle
    exact absurd hle (Nat.not_succ_le_self ds.length)
  | cons first source =>
    obtain rfl : d = first := (List.cons.inj hsource).1
    refine ⟨d, source, rfl, fun rest hrest => ?_⟩
    refine ⟨begins_word (isWordChar_of_isDigit hd) _, fun q => ?_⟩
    rw [readToken_digit hd]
    exact readNumber_append hchars hrest q

/-! ## Tokens -/

/-- A token that was read is read again from its spelling. -/
theorem respells_of_readToken {d : Char} {ds source : List Char} {p : Position} {kind : TokenKind}
    {next : Cursor} (hbegins : Begins d ds) (h : readToken d ds p = .ok (kind, next))
    (hsource : d :: ds = source ++ next.rest) : Respells (kind.spelling source) kind := by
  unfold readToken at h
  dsimp only at h
  split at h
  · rename_i hmark
    cases h
    rw [spelling_mark hmark]
    exact respells_mark hmark
  split at h
  · split at h <;> cases h
    · exact respells_arrow
    · exact respells_eq
  split at h
  · obtain ⟨s, rfl⟩ := readString_string h
    exact respells_string source s
  split at h
  · rename_i hslash
    subst hslash
    exact respells_regex source hbegins h
  split at h
  · rename_i hdigit
    exact respells_number hdigit h hsource
  rename_i hdigit
  split at h
  · rename_i hstart
    have hword : (d :: ds).takeWhile isWordChar = d :: ds.takeWhile isWordChar :=
      List.takeWhile_cons_of_pos (isWordChar_of_isWordStart hstart)
    simp only [readWord, Cursor.span, hword] at h
    cases h
    rw [spelling_ofWord]
    exact respells_word hstart (by simpa using hdigit) fun _ => List.mem_takeWhile_imp
  · cases h

end Rulebook
