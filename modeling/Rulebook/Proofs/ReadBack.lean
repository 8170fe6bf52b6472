import Rulebook.Json.Printer
import Rulebook.Json.Reader
import Rulebook.Proofs.KeyOrder

/-!
# Documents that are read back

A document without numbers is read back from its text, in one line or over several, with the members of each
object in the order of their keys. The two texts are those of one writer that puts blanks of its own where a
reader passes them.
-/

namespace Rulebook

namespace Json

/-! ## Strings -/

theorem hexDigit_hexChar : ∀ n < 16, hexDigit (hexChar n) = some n := by decide

theorem utf8Size_hexChar : ∀ n < 16, (hexChar n).utf8Size = 1 := by decide

theorem Mark.skip_cons {m : Mark} {n : Nat} {c : Char} (hc : c.utf8Size = 1) (cs : List Char) :
    m.skip (n + 1) (c :: cs) = (m.next c).skip n cs := by
  rw [skip, hc, if_neg (by omega), Nat.add_sub_cancel]

theorem readHex_control {n : Nat} (h : n < 32) (cs : List Char) (m : Mark) :
    readHex ('0' :: '0' :: hexChar (n / 16) :: hexChar (n % 16) :: cs) m = .ok n := by
  have hhigh : n / 16 < 16 := by omega
  have hlow : n % 16 < 16 := Nat.mod_lt n (by omega)
  have hzero : hexDigit '0' = some 0 := by decide
  have hskip : ∃ stop, m.skip 4 ('0' :: '0' :: hexChar (n / 16) :: hexChar (n % 16) :: cs) = some stop := by
    rw [Mark.skip_cons (by decide), Mark.skip_cons (by decide), Mark.skip_cons (utf8Size_hexChar _ hhigh),
      Mark.skip_cons (utf8Size_hexChar _ hlow)]
    exact ⟨_, Mark.skip.eq_1 ..⟩
  obtain ⟨stop, hstop⟩ := hskip
  simp only [readHex, hstop, hzero, hexDigit_hexChar _ hhigh, hexDigit_hexChar _ hlow]
  congr 1
  omega

/-- A character is written with a letter for it, by its number, or as it is. -/
theorem escapedChar_cases (c : Char) :
    (∃ e, escapedChar c = ['\\', e] ∧ unescape e = some c) ∨
    (c.toNat < 32 ∧ escapedChar c = ['\\', 'u', '0', '0', hexChar (c.toNat / 16), hexChar (c.toNat % 16)]) ∨
    (c ≠ '"' ∧ c ≠ '\\' ∧ ¬ c.toNat < 32 ∧ escapedChar c = [c]) := by
  by_cases hletter : c ∈ ['"', '\\', '\n', '\t', '\r', '\x08', '\x0c']
  · refine .inl ?_
    simp only [List.mem_cons, List.not_mem_nil, or_false] at hletter
    rcases hletter with rfl | rfl | rfl | rfl | rfl | rfl | rfl <;> exact ⟨_, rfl, rfl⟩
  · simp only [List.mem_cons, List.not_mem_nil, or_false, not_or] at hletter
    obtain ⟨hquote, hbackslash, hline, htab, hreturn, hback, hfeed⟩ := hletter
    unfold escapedChar
    rw [if_neg hquote, if_neg hbackslash, if_neg hline, if_neg htab, if_neg hreturn, if_neg hback, if_neg hfeed]
    by_cases hcontrol : c.toNat < 32
    · exact .inr (.inl ⟨hcontrol, if_pos hcontrol⟩)
    · exact .inr (.inr ⟨hquote, hbackslash, hcontrol, if_neg hcontrol⟩)

theorem readString_escape {e c : Char} (h : unescape e = some c) (cs read : List Char) (m : Mark) :
    readString ('\\' :: e :: cs) m read = readString cs ((m.next '\\').next e) (c :: read) := by
  have hu : e ≠ 'u' := by
    rintro rfl
    cases h
  rw [readString.eq_def]
  simp only [Char.reduceEq, if_true, if_false, if_neg hu, h]

theorem readString_control {c : Char} (h : c.toNat < 32) (cs read : List Char) (m : Mark) :
    ∃ m', readString ('\\' :: 'u' :: '0' :: '0' :: hexChar (c.toNat / 16) :: hexChar (c.toNat % 16) :: cs) m read =
      readString cs m' (c :: read) := by
  have hlow : ¬ (0xDC00 ≤ c.toNat ∧ c.toNat ≤ 0xDFFF) := by omega
  have hwhole : c.toNat < 0xD800 ∨ 0xDFFF < c.toNat := by omega
  rw [readString.eq_def]
  simp only [Char.reduceEq, if_true, if_false, readHex_control h, if_neg hlow, if_pos hwhole, Char.ofNat_toNat]
  exact ⟨_, rfl⟩

/-- What a character is written as is read as that character, wherever it stands. -/
theorem readString_escapedChar (c : Char) (cs read : List Char) (m : Mark) :
    ∃ m', readString (escapedChar c ++ cs) m read = readString cs m' (c :: read) := by
  rcases escapedChar_cases c with ⟨e, hword, hletter⟩ | ⟨hcontrol, hword⟩ | ⟨hquote, hbackslash, hcontrol, hword⟩
  · rw [hword]
    exact ⟨_, readString_escape hletter cs read m⟩
  · rw [hword]
    exact readString_control hcontrol cs read m
  · rw [hword, List.singleton_append, readString.eq_def]
    simp only [if_neg hquote, if_neg hbackslash, if_neg hcontrol]
    exact ⟨_, rfl⟩

theorem readString_written (s cs read : List Char) (m : Mark) :
    ∃ m', readString (s.flatMap escapedChar ++ '"' :: cs) m read =
      .ok (String.ofList (read.reverse ++ s), cs, m') := by
  induction s generalizing read m with
  | nil =>
    rw [List.flatMap_nil, List.nil_append, List.append_nil, readString.eq_def]
    exact ⟨_, if_pos rfl⟩
  | cons c s ih =>
    obtain ⟨m₁, hchar⟩ := readString_escapedChar c (s.flatMap escapedChar ++ '"' :: cs) read m
    obtain ⟨m', hrest⟩ := ih (c :: read) m₁
    rw [List.flatMap_cons, List.append_assoc, hchar, hrest, List.reverse_cons, List.append_assoc,
      List.singleton_append]
    exact ⟨m', rfl⟩

/-! ## Words -/

/-- The reader takes a word, whatever comes next, and gives `a` for it. -/
def Reader.Takes {α : Type} (r : Reader α) (word : List Char) (a : α) : Prop :=
  ∀ rest m, ∃ m', r.run (word ++ rest) m = .ok (a, rest, m')

/-- A word that is neither passed as blanks nor taken for the end of a list. -/
def Bracket.Admits (b : Bracket) (word : List Char) : Prop :=
  ∃ d ds, word = d :: ds ∧ isSpace d = false ∧ d ≠ b.close

def Blank (cs : List Char) : Prop := ∀ c ∈ cs, isSpace c = true

theorem skipSpace_none {c : Char} (hc : isSpace c = false) (cs : List Char) (m : Mark) :
    skipSpace (c :: cs) m = (c :: cs, m) := by
  rw [skipSpace, if_neg (by simp [hc])]

theorem skipSpace_blank {gap : List Char} (hgap : Blank gap) {c : Char} (hc : isSpace c = false) (cs : List Char)
    (m : Mark) : ∃ m', skipSpace (gap ++ c :: cs) m = (c :: cs, m') := by
  induction gap generalizing m with
  | nil => exact ⟨m, skipSpace_none hc cs m⟩
  | cons d gap ih =>
    obtain ⟨hd, hrest⟩ := List.forall_mem_cons.1 hgap
    rw [List.cons_append, skipSpace, if_pos hd]
    exact ih hrest (m.next d)

theorem readWord_self (word cs : List Char) (m : Mark) :
    ∃ m', readWord word (word ++ cs) m = .ok ((), cs, m') := by
  induction word generalizing m with
  | nil => exact ⟨m, rfl⟩
  | cons c word ih =>
    rw [List.cons_append, readWord, if_pos rfl]
    exact ih (m.next c)

/-! ## Lists -/

section
variable {α : Type} {b : Bracket} {item : Reader α} {cs rest cs' : List Char} {m m₁ m₂ m₃ : Mark} {a : α}
  {read : List α}

theorem readItems_last (hitem : item.run cs m = .ok (a, rest, m₁))
    (hskip : skipSpace rest m₁ = (b.close :: cs', m₂)) :
    readItems b item cs m read = .ok ((a :: read).reverse, cs', m₂.next b.close) := by
  rw [readItems]
  split
  · next h => cases hitem.symm.trans h
  · next h =>
    cases hitem.symm.trans h
    split
    · next g => cases hskip.symm.trans g
    · next g =>
      cases hskip.symm.trans g
      exact if_pos rfl

theorem readItems_next (hitem : item.run cs m = .ok (a, rest, m₁)) (hskip : skipSpace rest m₁ = (',' :: cs', m₂))
    (hcomma : ',' ≠ b.close) {d : Char} {ds : List Char} (hskip' : skipSpace cs' (m₂.next ',') = (d :: ds, m₃))
    (hd : d ≠ b.close) : readItems b item cs m read = readItems b item (d :: ds) m₃ (a :: read) := by
  rw [readItems]
  split
  · next h => cases hitem.symm.trans h
  · next h =>
    cases hitem.symm.trans h
    split
    · next g => cases hskip.symm.trans g
    · next g =>
      cases hskip.symm.trans g
      rw [if_neg hcomma, if_pos rfl]
      split
      · next k => cases hskip'.symm.trans k
      · next k =>
        cases hskip'.symm.trans k
        exact if_neg hd

end

/-- Words that follow another, each behind a comma and a gap. -/
def following (gap : List Char) : List (List Char) → List Char
  | [] => []
  | w :: ws => ',' :: (gap ++ (w ++ following gap ws))

/-- Words between commas, each behind a gap, and another gap behind the last. -/
def spread (gap last : List Char) : List (List Char) → List Char
  | [] => []
  | w :: ws => gap ++ (w ++ (following gap ws ++ last))

/-- A list ends with a mark that is neither a blank nor the comma. -/
def Bracket.Proper (b : Bracket) : Prop := isSpace b.close = false ∧ ',' ≠ b.close

section
variable {α β : Type} {b : Bracket} {item : Reader α} {gap last : List Char} {word : β → List Char} {value : β → α}

theorem readItems_spread (hgap : Blank gap) (hlast : Blank last) (hb : b.Proper) (x : β) (xs : List β)
    (h : ∀ y ∈ x :: xs, item.Takes (word y) (value y) ∧ b.Admits (word y)) (cs : List Char) (m : Mark)
    (read : List α) :
    ∃ m', readItems b item (word x ++ (following gap (xs.map word) ++ (last ++ b.close :: cs))) m read =
        .ok (read.reverse ++ (x :: xs).map value, cs, m') := by
  obtain ⟨hclose, hcomma⟩ := hb
  -- On the words that follow; the reader stands before the word of `x`, with others read before it.
  induction xs generalizing x m read with
  | nil =>
    obtain ⟨m₁, hx⟩ := (h x List.mem_cons_self).1 (last ++ b.close :: cs) m
    obtain ⟨m₂, hskip⟩ := skipSpace_blank hlast hclose cs m₁
    refine ⟨m₂.next b.close, (readItems_last hx hskip).trans ?_⟩
    rw [List.reverse_cons, List.map_singleton]
  | cons y ys ih =>
    obtain ⟨⟨hx, -⟩, hrest⟩ := List.forall_mem_cons.1 h
    obtain ⟨-, d, ds, hword, hd, hne⟩ := hrest y List.mem_cons_self
    obtain ⟨m₁, hitem⟩ := hx _ m
    obtain ⟨m₂, hskip⟩ := skipSpace_blank hgap hd _ (m₁.next ',')
    obtain ⟨m', hys⟩ := ih y hrest m₂ (value x :: read)
    refine ⟨m', ?_⟩
    rw [hword, List.cons_append] at hys
    rw [List.map_cons, following, hword, List.cons_append, List.append_assoc, List.append_assoc, List.cons_append,
      readItems_next hitem (skipSpace_none (by decide) _ m₁) hcomma hskip hne, hys, List.reverse_cons,
      List.append_assoc]
    rfl

theorem readBracket_spread (hgap : Blank gap) (hlast : Blank last) (hb : b.Proper) (xs : List β)
    (h : ∀ y ∈ xs, item.Takes (word y) (value y) ∧ b.Admits (word y)) (cs : List Char) (m : Mark) :
    ∃ m', readBracket b item (spread gap last (xs.map word) ++ b.close :: cs) m = .ok (xs.map value, cs, m') := by
  cases xs with
  | nil =>
    refine ⟨m.next b.close, ?_⟩
    rw [List.map_nil, spread, List.nil_append, readBracket, skipSpace_none hb.1]
    exact if_pos rfl
  | cons x xs =>
    obtain ⟨-, d, ds, hword, hd, hne⟩ := h x List.mem_cons_self
    obtain ⟨m₁, hskip⟩ := skipSpace_blank hgap hd _ m
    obtain ⟨m', hitems⟩ := readItems_spread hgap hlast hb x xs h cs m₁ []
    refine ⟨m', ?_⟩
    rw [hword, List.cons_append] at hitems
    rw [List.map_cons, spread, hword, List.append_assoc, List.append_assoc, List.append_assoc, List.cons_append,
      readBracket, hskip]
    exact (if_neg hne).trans hitems

end

/-! ## Layouts -/

/-- The blanks that a writer puts before what stands at a depth and behind a colon. -/
structure Layout where
  gap : Nat → List Char
  afterColon : List Char
  blank_gap : ∀ depth, Blank (gap depth)
  blank_afterColon : Blank afterColon

namespace Layout

mutual

def chars (l : Layout) (depth : Nat) : Json → List Char
  | array items => '[' :: (spread (l.gap (depth + 1)) (l.gap depth) (l.itemWords (depth + 1) items) ++ [']'])
  | object members =>
    '\x7b' :: (spread (l.gap (depth + 1)) (l.gap depth) (l.memberWords (depth + 1) members) ++ ['\x7d'])
  | v => v.chars

def itemWords (l : Layout) (depth : Nat) : List Json → List (List Char)
  | [] => []
  | x :: xs => l.chars depth x :: l.itemWords depth xs

def memberWords (l : Layout) (depth : Nat) : List (String × Json) → List (List Char)
  | [] => []
  | (k, x) :: xs => (stringChars k ++ ':' :: (l.afterColon ++ l.chars depth x)) :: l.memberWords depth xs

end

def member (l : Layout) (depth : Nat) (m : String × Json) : List Char :=
  stringChars m.1 ++ ':' :: (l.afterColon ++ l.chars depth m.2)

theorem itemWords_eq_map (l : Layout) (depth : Nat) (items : List Json) :
    l.itemWords depth items = items.map (l.chars depth) := by
  induction items with
  | nil => rfl
  | cons x xs ih => rw [itemWords, ih, List.map_cons]

theorem memberWords_eq_map (l : Layout) (depth : Nat) (members : List (String × Json)) :
    l.memberWords depth members = members.map (l.member depth) := by
  induction members with
  | nil => rfl
  | cons m ms ih => rw [memberWords, ih, List.map_cons, member]

def oneLine : Layout where
  gap _ := []
  afterColon := []
  blank_gap _ := List.forall_mem_nil _
  blank_afterColon := List.forall_mem_nil _

theorem blank_indentChars (depth : Nat) : Blank (indentChars depth) := by
  intro c hc
  rcases List.mem_cons.1 hc with rfl | hspace
  · rfl
  · rw [List.eq_of_mem_replicate hspace]
    rfl

def indented : Layout where
  gap := indentChars
  afterColon := [' ']
  blank_gap := blank_indentChars
  blank_afterColon := by simp [Blank, isSpace]

mutual

theorem chars_oneLine (depth : Nat) : ∀ v : Json, oneLine.chars depth v = v.chars
  | null | bool _ | number _ | string _ | array [] | object [] => rfl
  | array (x :: xs) => by
    rw [chars, itemWords, spread, chars_oneLine (depth + 1) x, itemChars_oneLine (depth + 1) xs, Json.chars]
    simp [oneLine]
  | object ((k, x) :: xs) => by
    rw [chars, memberWords, spread, chars_oneLine (depth + 1) x, memberChars_oneLine (depth + 1) xs, Json.chars]
    simp [oneLine]

theorem itemChars_oneLine (depth : Nat) :
    ∀ xs : List Json, following (oneLine.gap depth) (oneLine.itemWords depth xs) = itemChars xs
  | [] => rfl
  | x :: xs => by
    rw [itemWords, following, chars_oneLine depth x, itemChars_oneLine depth xs, itemChars]
    simp [oneLine]

theorem memberChars_oneLine (depth : Nat) :
    ∀ xs : List (String × Json), following (oneLine.gap depth) (oneLine.memberWords depth xs) = memberChars xs
  | [] => rfl
  | (k, x) :: xs => by
    rw [memberWords, following, chars_oneLine depth x, memberChars_oneLine depth xs, memberChars]
    simp [oneLine]

end

mutual

theorem chars_indented (depth : Nat) : ∀ v : Json, indented.chars depth v = v.prettyChars depth
  | null | bool _ | number _ | string _ | array [] | object [] => rfl
  | array (x :: xs) => by
    rw [chars, itemWords, spread, chars_indented (depth + 1) x, prettyItems_indented (depth + 1) xs, prettyChars]
    simp [indented]
  | object ((k, x) :: xs) => by
    rw [chars, memberWords, spread, chars_indented (depth + 1) x, prettyMembers_indented (depth + 1) xs,
      prettyChars]
    simp [indented]

theorem prettyItems_indented (depth : Nat) :
    ∀ xs : List Json, following (indented.gap depth) (indented.itemWords depth xs) = prettyItems depth xs
  | [] => rfl
  | x :: xs => by
    rw [itemWords, following, chars_indented depth x, prettyItems_indented depth xs, prettyItems]
    simp [indented]

theorem prettyMembers_indented (depth : Nat) :
    ∀ xs : List (String × Json),
      following (indented.gap depth) (indented.memberWords depth xs) = prettyMembers depth xs
  | [] => rfl
  | (k, x) :: xs => by
    rw [memberWords, following, chars_indented depth x, prettyMembers_indented depth xs, prettyMembers]
    simp [indented]

end

end Layout

/-! ## Documents -/

mutual

/-- A document as a reader leaves it, with the members of its objects by their keys. -/
def sorted : Json → Json
  | array items => array (sortedItems items)
  | object members => object (ofEntries (sortedMembers members))
  | v => v

def sortedItems : List Json → List Json
  | [] => []
  | x :: xs => sorted x :: sortedItems xs

def sortedMembers : List (String × Json) → List (String × Json)
  | [] => []
  | (k, x) :: xs => (k, sorted x) :: sortedMembers xs

end

theorem sortedItems_eq_map (items : List Json) : sortedItems items = items.map sorted := by
  induction items with
  | nil => rfl
  | cons x xs ih => rw [sortedItems, ih, List.map_cons]

theorem sortedMembers_eq_map (members : List (String × Json)) :
    sortedMembers members = members.map fun m => (m.1, m.2.sorted) := by
  induction members with
  | nil => rfl
  | cons m ms ih => rw [sortedMembers, ih, List.map_cons]

/-- A document without numbers that nests at most so many arrays and objects. -/
def Numberless : Nat → Json → Prop
  | _, null | _, bool _ | _, string _ => True
  | _, number _ | 0, array _ | 0, object _ => False
  | n + 1, array items => ∀ x ∈ items, Numberless n x
  | n + 1, object members => ∀ m ∈ members, Numberless n m.2

theorem Numberless.opens {n : Nat} {v : Json} (h : v.Numberless n) (l : Layout) (depth : Nat) :
    ∃ d ds, l.chars depth v = d :: ds ∧ isSpace d = false ∧ d ≠ ']' := by
  cases v with
  | null => exact ⟨_, _, rfl, by decide⟩
  | bool b => cases b <;> exact ⟨_, _, rfl, by decide⟩
  | number => cases n <;> exact h.elim
  | string s => exact ⟨_, _, rfl, by decide⟩
  | array items => exact ⟨_, _, rfl, by decide⟩
  | object members => exact ⟨_, _, rfl, by decide⟩

theorem readerOver_takes {inner : Option (Reader Json)} {c : Char} (hc : isSpace c = false) {cs : List Char}
    {v : Json} (h : ∀ rest m, ∃ m', readValue inner c (cs ++ rest) m = .ok (v, rest, m')) :
    (readerOver inner).Takes (c :: cs) v := by
  intro rest m
  obtain ⟨m', hread⟩ := h rest m
  refine ⟨m', ?_⟩
  rw [List.cons_append, readerOver]
  simp only [skipSpace_none hc, hread]

theorem valueReader_eq (n : Nat) : ∃ inner, valueReader n = readerOver inner := by
  cases n with
  | zero => exact ⟨none, rfl⟩
  | succ n => exact ⟨some (valueReader n), rfl⟩

section
variable (n : Nat)

theorem keyword_takes {c : Char} (hc : isSpace c = false) {word : List Char} {v : Json}
    (h : ∀ inner cs m, readValue inner c cs m = (readWord word cs (m.next c)).map fun (_, rest) => (v, rest)) :
    (valueReader n).Takes (c :: word) v := by
  obtain ⟨inner, hinner⟩ := valueReader_eq n
  rw [hinner]
  refine readerOver_takes hc fun rest m => ?_
  obtain ⟨m', hword⟩ := readWord_self word rest (m.next c)
  exact ⟨m', by rw [h, hword]; rfl⟩

theorem null_takes : (valueReader n).Takes ['n', 'u', 'l', 'l'] null :=
  keyword_takes n (by decide) fun inner cs m => by rw [readValue]

theorem bool_takes (b : Bool) : (valueReader n).Takes (bool b).chars (bool b) := by
  cases b with
  | false => exact keyword_takes n (by decide) fun inner cs m => by rw [readValue]
  | true => exact keyword_takes n (by decide) fun inner cs m => by rw [readValue]

theorem readString_quoted (s : String) (rest : List Char) (m : Mark) :
    ∃ m', readString (s.toList.flatMap escapedChar ++ ['"'] ++ rest) m [] = .ok (s, rest, m') := by
  obtain ⟨m', h⟩ := readString_written s.toList rest [] m
  rw [List.reverse_nil, List.nil_append, String.ofList_toList] at h
  exact ⟨m', by rw [List.append_assoc, List.singleton_append, h]⟩

theorem string_takes (s : String) : (valueReader n).Takes (stringChars s) (string s) := by
  obtain ⟨inner, hinner⟩ := valueReader_eq n
  rw [hinner]
  refine readerOver_takes (by decide) fun rest m => ?_
  obtain ⟨m', hstring⟩ := readString_quoted s rest (m.next '"')
  exact ⟨m', map_eq_ok.2 ⟨_, hstring, rfl⟩⟩

variable {gap last : List Char} {β : Type} {word : β → List Char}

theorem array_takes (hgap : Blank gap) (hlast : Blank last) {value : β → Json} {items : List β}
    (h : ∀ x ∈ items, (valueReader n).Takes (word x) (value x) ∧ Bracket.array.Admits (word x)) :
    (valueReader (n + 1)).Takes ('[' :: (spread gap last (items.map word) ++ [']'])) (array (items.map value)) := by
  refine readerOver_takes (by decide) fun rest m => ?_
  obtain ⟨m', hitems⟩ := readBracket_spread (b := .array) hgap hlast ⟨by decide, by decide⟩ items h rest (m.next '[')
  refine ⟨m', ?_⟩
  rw [List.append_assoc]
  exact map_eq_ok.2 ⟨_, hitems, rfl⟩

theorem object_takes (hgap : Blank gap) (hlast : Blank last) {value : β → String × Json} {members : List β}
    (h : ∀ x ∈ members, (entryReader (valueReader n)).Takes (word x) (value x) ∧ Bracket.object.Admits (word x)) :
    (valueReader (n + 1)).Takes ('\x7b' :: (spread gap last (members.map word) ++ ['\x7d']))
      (object (ofEntries (members.map value))) := by
  refine readerOver_takes (by decide) fun rest m => ?_
  obtain ⟨m', hmembers⟩ :=
    readBracket_spread (b := .object) hgap hlast ⟨by decide, by decide⟩ members h rest (m.next '\x7b')
  refine ⟨m', ?_⟩
  rw [List.append_assoc]
  exact map_eq_ok.2 ⟨_, hmembers, rfl⟩

theorem valueReader_takes_gap (hgap : Blank gap) {v : Json} {d : Char} {ds : List Char} (hd : isSpace d = false)
    (h : (valueReader n).Takes (d :: ds) v) : (valueReader n).Takes (gap ++ d :: ds) v := by
  obtain ⟨inner, hinner⟩ := valueReader_eq n
  rw [hinner] at h ⊢
  intro rest m
  obtain ⟨m₁, hskip⟩ := skipSpace_blank hgap hd (ds ++ rest) m
  obtain ⟨m', hread⟩ := h rest m₁
  refine ⟨m', ?_⟩
  rw [← hread, List.append_assoc, List.cons_append, readerOver]
  simp only [hskip, skipSpace_none hd]

end

theorem entryReader_takes {value : Reader Json} {key : String} {word : List Char} {v : Json}
    (h : value.Takes word v) : (entryReader value).Takes (stringChars key ++ ':' :: word) (key, v) := by
  intro rest m
  obtain ⟨m₁, hkey⟩ := readString_quoted key (':' :: (word ++ rest)) (m.next '"')
  obtain ⟨m', hvalue⟩ := h rest (m₁.next ':')
  refine ⟨m', ?_⟩
  have htext : stringChars key ++ ':' :: word ++ rest =
      '"' :: (key.toList.flatMap escapedChar ++ ['"'] ++ ':' :: (word ++ rest)) := by
    simp [stringChars]
  rw [htext, entryReader]
  simp only [skipSpace_none (c := '"') (by decide), hkey, skipSpace_none (c := ':') (by decide), hvalue]
  rfl

theorem valueReader_takes (l : Layout) {n : Nat} {v : Json} (h : v.Numberless n) (depth : Nat) :
    (valueReader n).Takes (l.chars depth v) v.sorted := by
  -- On the nesting that is left, which the readers of parts have one less of, not on the document.
  induction n generalizing v depth with
  | zero =>
    cases v with
    | null => exact null_takes 0
    | bool b => exact bool_takes 0 b
    | string s => exact string_takes 0 s
    | number | array | object => exact h.elim
  | succ n ih =>
    cases v with
    | null => exact null_takes (n + 1)
    | bool b => exact bool_takes (n + 1) b
    | string s => exact string_takes (n + 1) s
    | number => exact h.elim
    | array items =>
      rw [Layout.chars, l.itemWords_eq_map, sorted, sortedItems_eq_map]
      refine array_takes n (l.blank_gap _) (l.blank_gap _) fun x hx => ⟨ih (h x hx) (depth + 1), ?_⟩
      exact (h x hx).opens l (depth + 1)
    | object members =>
      rw [Layout.chars, l.memberWords_eq_map, sorted, sortedMembers_eq_map]
      refine object_takes n (l.blank_gap _) (l.blank_gap _) fun x hx => ⟨?_, '"', _, rfl, by decide⟩
      obtain ⟨d, ds, hword, hd, -⟩ := (h x hx).opens l (depth + 1)
      have hvalue := ih (h x hx) (depth + 1)
      rw [hword] at hvalue
      rw [Layout.member, hword]
      exact entryReader_takes (valueReader_takes_gap n l.blank_afterColon hd hvalue)

/-- The text of a document in a layout, within the nesting that is read, is that document with sorted members. -/
theorem ofText_layout (l : Layout) {v : Json} (h : v.Numberless maxNesting) :
    ofText (String.ofList (l.chars 0 v)) = .ok v.sorted := by
  obtain ⟨m', hread⟩ := valueReader_takes l h 0 [] .start
  rw [List.append_nil] at hread
  rw [ofText, String.toList_ofList, hread]
  rfl

theorem ofText_text {v : Json} (h : v.Numberless maxNesting) : ofText v.text = .ok v.sorted := by
  rw [text, ← Layout.chars_oneLine 0]
  exact ofText_layout .oneLine h

theorem ofText_pretty {v : Json} (h : v.Numberless maxNesting) : ofText v.pretty = .ok v.sorted := by
  rw [pretty, ← Layout.chars_indented 0]
  exact ofText_layout .indented h

end Json

end Rulebook
