import Rulebook.Proofs.Respelling

/-!
# Literals and the ends of lines

A string ends in the line that it begins in. A regex does so too unless the last character of a line is a
backslash: what stands behind one belongs to the pattern, and the end of the line is no exception.
-/

namespace Rulebook

/-- Line breaks stand only behind backslashes that are not escaped themselves. -/
inductive BreaksEscaped : List Char → Prop
  | nil : BreaksEscaped []
  | escape (e : Char) {cs : List Char} (h : BreaksEscaped cs) : BreaksEscaped ('\\' :: e :: cs)
  | char {c : Char} {cs : List Char} (hbreak : c ≠ '\n') (hbackslash : c ≠ '\\') (h : BreaksEscaped cs) :
      BreaksEscaped (c :: cs)

theorem BreaksEscaped.not_mem {cs : List Char} (h : BreaksEscaped cs) (hnot : ¬ ['\\', '\n'] <:+: cs) :
    '\n' ∉ cs := by
  induction h with
  | nil => simp
  | @escape e cs _ ih =>
    have hrest : '\n' ∉ cs := ih fun hinfix => hnot (List.infix_cons (List.infix_cons hinfix))
    have he : e ≠ '\n' := by
      rintro rfl
      exact hnot ⟨[], cs, rfl⟩
    simp [hrest, Ne.symm he]
  | @char c cs hbreak _ _ ih =>
    have hrest : '\n' ∉ cs := ih fun hinfix => hnot (List.infix_cons hinfix)
    simp [hrest, Ne.symm hbreak]

/-! ## Strings -/

theorem ne_newline_of_hexValue {c : Char} {n : Nat} (h : hexValue c = some n) : c ≠ '\n' := by
  rintro rfl
  cases h

theorem ne_newline_of_readCodePoint {w x y z c : Char} (h : readCodePoint w x y z = .ok c) :
    '\n' ∉ [w, x, y, z] := by
  unfold readCodePoint at h
  split at h
  · rename_i hw hx hy hz
    have := ne_newline_of_hexValue hw
    have := ne_newline_of_hexValue hx
    have := ne_newline_of_hexValue hy
    have := ne_newline_of_hexValue hz
    simp [*, eq_comm]
  · cases h

theorem readString_line {quote : Char} {start p : Position} {cs read : List Char} {kind : TokenKind}
    {d : Cursor} (h : readString quote start cs p read = .ok (kind, d)) :
    ∃ body, cs = body ++ d.rest ∧ '\n' ∉ body := by
  -- On the recursion; in a case that is not listed there is no token.
  fun_induction readString quote start cs p read with
  | case3 p read cs hbreak =>
    cases h
    exact ⟨[quote], rfl, by simp [Ne.symm hbreak]⟩
  | case5 p read w x y z ds ch hchar _ _ ih =>
    obtain ⟨body, rfl, hbody⟩ := ih h
    have hhex := ne_newline_of_readCodePoint hchar
    refine ⟨'\\' :: 'u' :: w :: x :: y :: z :: body, rfl, ?_⟩
    simp_all
  | case8 p read e es _ ch hescaped _ _ ih =>
    obtain ⟨body, rfl, hbody⟩ := ih h
    have he : e ≠ '\n' := by
      rintro rfl
      cases hescaped
    exact ⟨'\\' :: e :: body, rfl, by simp [hbody, Ne.symm he]⟩
  | case10 c cs p read hbreak _ _ ih =>
    obtain ⟨body, rfl, hbody⟩ := ih h
    exact ⟨c :: body, rfl, by simp [hbody, Ne.symm hbreak]⟩
  | _ => cases h

/-! ## Regexes -/

theorem readPattern_breaks {start p : Position} {cs read pattern : List Char} {inClass : Bool} {d : Cursor}
    (h : readPattern start cs p inClass read = .ok (pattern, d)) :
    ∃ body, cs = body ++ '/' :: d.rest ∧ BreaksEscaped body := by
  fun_induction readPattern start cs p inClass read with
  | case1 | case2 | case3 => cases h
  | case4 p inClass read e es _ ih =>
    obtain ⟨body, rfl, hbody⟩ := ih h
    exact ⟨'\\' :: e :: body, rfl, .escape e hbody⟩
  | case5 cs p inClass read _ _ ih =>
    obtain ⟨body, rfl, hbody⟩ := ih h
    exact ⟨'[' :: body, rfl, .char (by decide) (by decide) hbody⟩
  | case6 cs p inClass read _ _ _ ih =>
    obtain ⟨body, rfl, hbody⟩ := ih h
    exact ⟨']' :: body, rfl, .char (by decide) (by decide) hbody⟩
  | case7 c cs p inClass read _ _ _ _ hcloses =>
    cases h
    obtain ⟨rfl, -⟩ := hcloses
    exact ⟨[], rfl, .nil⟩
  | case8 c cs p inClass read hbreak hbackslash _ _ _ ih =>
    obtain ⟨body, rfl, hbody⟩ := ih h
    exact ⟨c :: body, rfl, .char hbreak hbackslash hbody⟩

theorem readFlags_rest {c next : Cursor} {flags : List Char} (h : readFlags c = .ok (flags, next)) :
    c.rest = flags ++ next.rest := by
  have hspan : (c.span isRegexFlag).1 ++ (c.span isRegexFlag).2.rest = c.rest :=
    List.takeWhile_append_dropWhile
  unfold readFlags at h
  dsimp only at h
  split at h
  · split at h
    · cases h
    · cases h
      exact hspan.symm
  · cases h
    exact hspan.symm

/-- The characters of a regex. -/
structure RegexChars (flags : String) (source : List Char) : Prop where
  source : ∃ body, source = '/' :: (body ++ '/' :: flags.toList) ∧ BreaksEscaped body
  flags : ∀ f ∈ flags.toList, isRegexFlag f = true

theorem readRegex_chars {start p : Position} {ds source : List Char} {kind : TokenKind} {next : Cursor}
    (h : readRegex start ⟨ds, p⟩ = .ok (kind, next)) (hsource : '/' :: ds = source ++ next.rest) :
    ∃ pattern flags, kind = .regex pattern flags ∧ RegexChars flags source := by
  unfold readRegex at h
  dsimp only [bind, Except.bind] at h
  split at h
  · cases h
  rename_i hpattern
  split at h
  · cases h
  rename_i hflags
  cases h
  obtain ⟨body, rfl, hbody⟩ := readPattern_breaks hpattern
  refine ⟨_, _, rfl, ⟨body, ?_, hbody⟩, ?_⟩
  · rw [readFlags_rest hflags] at hsource
    apply List.append_cancel_right
    rw [← hsource]
    simp
  · rw [String.toList_ofList]
    exact readFlags_all hflags

theorem RegexChars.not_mem {flags : String} {source : List Char} (h : RegexChars flags source)
    (hnot : ¬ ['\\', '\n'] <:+: source) : '\n' ∉ source := by
  obtain ⟨⟨body, rfl, hbody⟩, hflags⟩ := h
  have hinner : '\n' ∉ body := by
    apply hbody.not_mem
    rintro ⟨before, after, rfl⟩
    exact hnot ⟨'/' :: before, after ++ '/' :: flags.toList, by simp⟩
  have houter : '\n' ∉ flags.toList := by
    intro hmem
    cases hflags _ hmem
  simp [hinner, houter]

/-! ## Tokens -/

/-- How a literal that was read from these characters is broken into lines. -/
def TokenKind.BreaksLike (source : List Char) : TokenKind → Prop
  | string _ => '\n' ∉ source
  | regex _ flags => RegexChars flags source
  | _ => True

theorem breaksLike_singleKind {c : Char} {kind : TokenKind} (h : singleKind c = some kind)
    (source : List Char) : kind.BreaksLike source := by
  unfold singleKind at h
  split at h <;> cases h <;> trivial

theorem breaksLike_ofWord (word source : List Char) : (TokenKind.ofWord word).BreaksLike source := by
  unfold TokenKind.ofWord
  split <;> trivial

theorem readToken_breaks {d : Char} {ds source : List Char} {p : Position} {kind : TokenKind}
    {next : Cursor} (h : readToken d ds p = .ok (kind, next)) (hsource : d :: ds = source ++ next.rest) :
    kind.BreaksLike source := by
  unfold readToken at h
  dsimp only at h
  split at h
  · rename_i hmark
    cases h
    exact breaksLike_singleKind hmark source
  split at h
  · split at h <;> cases h <;> trivial
  split at h
  · rename_i hquote
    obtain ⟨s, rfl⟩ := readString_string h
    -- The quote in front is no line break, and the scanner stops at one behind it.
    obtain ⟨body, rfl, hbody⟩ := readString_line h
    have hd : d ≠ '\n' := by
      rintro rfl
      revert hquote
      decide
    obtain rfl : source = d :: body := List.append_cancel_right hsource.symm
    show '\n' ∉ d :: body
    simp [hbody, Ne.symm hd]
  split at h
  · rename_i hslash
    subst hslash
    obtain ⟨pattern, flags, rfl, hchars⟩ := readRegex_chars h hsource
    exact hchars
  split at h
  · obtain ⟨n, cs, rfl, -⟩ := readNumber_chars h
    trivial
  split at h
  · cases h
    exact breaksLike_ofWord _ source
  · cases h

/-- A string ends in its line, and in a regex every line break is the second character of an escape. So no
literal takes characters of the next line unless a backslash stands at the end of this one. -/
theorem literals_keep_line {text : String} {ts : Tokens} (h : Tokens.ofText text = .ok ts) :
    ∀ t ∈ ts.list, t.stop = t.pos.after (t.source text) ∧
      (∀ s, t.kind = .string s → '\n' ∉ t.source text) ∧
      ∀ pattern flags, t.kind = .regex pattern flags →
        (∃ body, t.source text = '/' :: (body ++ '/' :: flags.toList) ∧ BreaksEscaped body) ∧
        (¬ ['\\', '\n'] <:+: t.source text → '\n' ∉ t.source text) := by
  intro t ht
  obtain ⟨d, ds, next, htoken, -, hsource, hstop⟩ := (Tokens.ofText_eq_ok.1 h).reads (.refl _) t ht
  have hbreaks := readToken_breaks htoken hsource
  refine ⟨hstop, fun s hs => ?_, fun pattern flags hregex => ?_⟩
  · rw [hs] at hbreaks
    exact hbreaks
  · rw [hregex] at hbreaks
    exact ⟨hbreaks.source, hbreaks.not_mem⟩

/-- A regex of two lines. -/
def brokenRegex : String := "/a\\\nb/"

theorem tokens_brokenRegex : Tokens.ofText brokenRegex =
    .ok ⟨[⟨.regex "a\\\nb" "", ⟨0, 1, 1⟩, ⟨6, 2, 3⟩⟩], ⟨6, 2, 3⟩⟩ := by
  decide +kernel

/-- Its line break is escaped. -/
theorem literals_keep_line_broken :
    ∃ ts t, Tokens.ofText brokenRegex = .ok ts ∧ t ∈ ts.list ∧ '\n' ∈ t.source brokenRegex ∧
      ∃ body, t.source brokenRegex = '/' :: (body ++ ['/']) ∧ BreaksEscaped body := by
  refine ⟨_, _, tokens_brokenRegex, List.mem_cons_self, by decide +kernel, ?_⟩
  obtain ⟨-, -, hregex⟩ := literals_keep_line tokens_brokenRegex _ List.mem_cons_self
  exact (hregex _ _ rfl).1

/-- So not every literal keeps to its line. -/
theorem not_literals_keep_line : ¬ ∀ (text : String) (ts : Tokens), Tokens.ofText text = .ok ts →
    ∀ t ∈ ts.list, ((∃ s, t.kind = .string s) ∨ ∃ pattern flags, t.kind = .regex pattern flags) →
      '\n' ∉ t.source text := by
  intro hall
  refine hall brokenRegex _ tokens_brokenRegex _ List.mem_cons_self (.inr ⟨_, _, rfl⟩) ?_
  decide +kernel

end Rulebook
