import Rulebook.Engine.Basic
import Rulebook.Proofs.DeepRules
import Rulebook.Proofs.KeyOrder
import Rulebook.Proofs.Spelling

/-!
# The names that are listed

What a word stands for is a factory only if the word is listed. A listed word stands for a factory too,
unless a kind was registered under a name that means something else: a namespace, the name of a member of
one, or no word at all.
-/

namespace Rulebook

/-! ## Registries -/

namespace Registry

/-- Any number of registrations, none before the first. -/
inductive Reached : Registry → Prop
  | empty : Reached empty
  | register {r : Registry} (h : Reached r) (kind : String) (v : Validator) : Reached (r.register kind v)

theorem reached_standard : Reached standard :=
  ((((((Reached.empty.register _ _).register _ _).register _ _).register _ _).register _ _).register _ _).register
    _ _

theorem putEntry_eq_insertKey (kind : String) (v : Validator) (entries : List (String × Validator)) :
    putEntry kind v entries = insertKey kind v entries := by
  induction entries with
  | nil => rfl
  | cons e rest ih => rw [putEntry, insertKey, ih]

theorem Reached.sortedKeys {r : Registry} (h : r.Reached) : SortedKeys r.entries := by
  induction h with
  | empty => exact .nil
  | register _ kind v ih =>
    rw [Registry.register, putEntry_eq_insertKey]
    exact ih.insertKey kind v

theorem mem_kinds_iff {r : Registry} (h : r.Reached) {kind : String} :
    kind ∈ r.kinds ↔ r.contains kind = true := by
  rw [kinds, List.mem_map, contains, Option.isSome_iff_exists]
  constructor
  · rintro ⟨⟨_, v⟩, hmem, rfl⟩
    exact ⟨v, h.sortedKeys.lookup_eq_some_iff.2 hmem⟩
  · rintro ⟨v, hv⟩
    exact ⟨(kind, v), h.sortedKeys.lookup_eq_some_iff.1 hv, rfl⟩

end Registry

/-! ## Words -/

/-- A word of the language that is no keyword. -/
structure IsName (text : String) : Prop where
  start : text.toList.head?.any isWordStart = true
  chars : text.toList.all isWordChar = true
  not_keyword : text ∉ ["let", "true", "false", "null"]

instance (text : String) : Decidable (IsName text) :=
  decidable_of_iff (text.toList.head?.any isWordStart = true ∧ text.toList.all isWordChar = true ∧
    text ∉ ["let", "true", "false", "null"])
    ⟨fun h => ⟨h.1, h.2.1, h.2.2⟩, fun h => ⟨h.start, h.chars, h.not_keyword⟩⟩

theorem isDigit_of_isWordStart {d : Char} (h : isWordStart d = true) : d.isDigit = false := by
  rcases Bool.or_eq_true_iff.1 h with halpha | hunderscore
  · unfold Char.isAlpha Char.isUpper Char.isLower at halpha
    unfold Char.isDigit
    grind
  · obtain rfl : d = '_' := of_decide_eq_true hunderscore
    rfl

theorem ofTokens_name (name : String) (p q stop : Position) :
    Program.ofTokens ⟨[⟨.ident name, p, q⟩], stop⟩ = .ok [.expr (.ident p name)] := by
  have hstmt : readStmt stop (Readers.of stop maxDepth).expr [⟨.ident name, p, q⟩] =
      .ok (.expr (.ident p name), []) := rfl
  have hskip : skipSemi [] = [] := rfl
  rw [Program.ofTokens, readStmts_cons hstmt, hskip, readStmts]
  rfl

namespace IsName

variable {text : String} (h : IsName text)
include h

theorem ofWord : TokenKind.ofWord text.toList = .ident text := by
  have hnot := h.not_keyword
  rw [TokenKind.ofWord, String.ofList_toList]
  split <;> simp_all

theorem ofText : ∃ pos, Program.ofText text = .ok [.expr (.ident pos text)] := by
  have hstart := h.start
  have hchars := List.all_eq_true.1 h.chars
  have hword := h.ofWord
  obtain ⟨d, ds, hds⟩ : ∃ d ds, text.toList = d :: ds := by
    cases hlist : text.toList with
    | nil =>
      rw [hlist] at hstart
      cases hstart
    | cons d ds => exact ⟨d, ds, rfl⟩
  rw [hds] at hstart hchars hword
  have hd : isWordStart d = true := hstart
  have hend : ∀ c ∈ ([] : List Char).head?, isWordChar c = false := nofun
  have hspan := Cursor.span_append hchars hend .start
  rw [List.append_nil] at hspan
  have htrivia : skipTrivia .blank (Cursor.start text).rest (Cursor.start text).pos =
      .ok ⟨d :: ds, .start⟩ := by
    rw [Cursor.start, hds]
    exact (begins_word (hchars d List.mem_cons_self) ds).skipTrivia .start
  have htoken : readToken d ds .start = .ok (.ident text, ⟨[], Position.start.after (d :: ds)⟩) := by
    rw [readToken_word hd (isDigit_of_isWordStart hd), readWord, hspan]
    dsimp only
    rw [hword]
  have htokens := (Lexes.token htrivia htoken (.done rfl)).tokensFrom []
  refine ⟨.start, ?_⟩
  rw [Program.ofText, Tokens.ofText, htokens]
  exact ofTokens_name text .start _ _

end IsName

/-! ## Calls -/

/-- How a factory is named: by a word, or as a member of a namespace. -/
inductive Expr.NamesFactory : Expr → Prop
  | word (pos : Position) (name : String) : NamesFactory (.ident pos name)
  | isNot (p q : Position) : NamesFactory (.member p (.ident q "Is") "Not")
  | doesNotContain (p q o : Position) :
      NamesFactory (.member p (.member q (.ident o "Does") "Not") "Contain")

namespace Registry

/-- In the empty scope an expression has this value. -/
def Evaluates (r : Registry) (e : Expr) (v : Value) : Prop :=
  ((evalAt r.contains maxEvals (.start true) [] e).run none).1 = .ok v

/-- A text names a factory that can be called. -/
def CanCall (r : Registry) (text : String) : Prop :=
  ∃ e f, Program.ofText text = .ok [.expr e] ∧ e.NamesFactory ∧ r.Evaluates e (.factory f)

section
variable {r : Registry} {name : String}

theorem evaluates_ident_iff {pos : Position} {v : Value} :
    r.Evaluates (.ident pos name) v ↔ global r.contains name = some v := by
  have hlookup : Rulebook.lookup r.contains [] name = global r.contains name := rfl
  rw [Evaluates, maxEvals, evalAt, evalStep, hlookup]
  cases global r.contains name with
  | none => exact iff_of_false (by rintro ⟨⟩) (by rintro ⟨⟩)
  | some w => exact Except.ok.injEq w v ▸ (Option.some.injEq w v ▸ Iff.rfl)

theorem mem_words_iff : name ∈ Builtin.words ↔ ∃ b, Builtin.ofWord name = some b := by
  constructor
  · intro h
    have hall : ∀ name ∈ Builtin.words, (Builtin.ofWord name).isSome = true := by decide
    exact Option.isSome_iff_exists.1 (hall name h)
  · rintro ⟨b, hb⟩
    unfold Builtin.ofWord at hb
    split at hb
    case h_16 => cases hb
    all_goals decide

theorem mem_words_of_structural : ∀ kind ∈ structuralKinds, kind ∈ Builtin.words := by
  decide

/-- A word stands for a factory if it is one of the language or a registered kind that is no namespace. -/
theorem global_factory_iff {registered : String → Bool} :
    (∃ f, global registered name = some (.factory f)) ↔
      name ∈ Builtin.words ∨ (registered name = true ∧ name ≠ "Is" ∧ name ≠ "Does") := by
  unfold global
  split
  · have hwords : "Is" ∉ Builtin.words := by decide
    exact iff_of_false nofun (by simp [hwords])
  · have hwords : "Does" ∉ Builtin.words := by decide
    exact iff_of_false nofun (by simp [hwords])
  · rename_i his hdoes
    cases hword : Builtin.ofWord name with
    | some b => exact iff_of_true ⟨_, rfl⟩ (.inl (mem_words_iff.2 ⟨b, hword⟩))
    | none =>
      have hwords : name ∉ Builtin.words := fun h => by
        obtain ⟨b, hb⟩ := mem_words_iff.1 h
        rw [hword] at hb
        cases hb
      have hstructural : structuralKinds.contains name = false :=
        Bool.eq_false_iff.2 fun h => hwords (mem_words_of_structural name (List.contains_iff_mem.1 h))
      rw [or_iff_right hwords, and_iff_left ⟨his, hdoes⟩, hstructural]
      cases registered name <;> simp

theorem mem_factoryNames_iff : name ∈ r.factoryNames ↔
    name ∈ Builtin.words ∨ name = "Is.Not" ∨ name = "Does.Not.Contain" ∨ name ∈ r.kinds := by
  have hstructural := mem_words_of_structural name
  unfold factoryNames
  simp only [List.mem_append, List.mem_cons, List.mem_filter, List.not_mem_nil, Builtin.name,
    Bool.and_eq_true, Bool.not_eq_true', List.contains_eq_mem, decide_eq_false_iff_not]
  tauto

/-! ## What can be called -/

theorem canCall_iff (h : IsName name) :
    r.CanCall name ↔ name ∈ Builtin.words ∨ (r.contains name = true ∧ name ≠ "Is" ∧ name ≠ "Does") := by
  obtain ⟨pos, htext⟩ := h.ofText
  rw [← global_factory_iff, CanCall]
  simp only [htext]
  constructor
  · rintro ⟨e, f, heq, -, hf⟩
    obtain rfl : .ident pos name = e := by simpa using heq
    exact ⟨f, evaluates_ident_iff.1 hf⟩
  · rintro ⟨f, hf⟩
    exact ⟨_, f, rfl, .word pos name, evaluates_ident_iff.2 hf⟩

theorem canCall_word (h : name ∈ Builtin.words) : r.CanCall name := by
  have hnames : ∀ name ∈ Builtin.words, IsName name := by decide
  exact (canCall_iff (hnames name h)).2 (.inl h)

variable (r)

theorem canCall_isNot : r.CanCall "Is.Not" := by
  refine ⟨.member ⟨2, 1, 3⟩ (.ident ⟨0, 1, 1⟩ "Is") "Not", .builtin .isNot, ?_, .isNot _ _, rfl⟩
  with_unfolding_all rfl

theorem canCall_doesNotContain : r.CanCall "Does.Not.Contain" := by
  refine ⟨.member ⟨8, 1, 9⟩ (.member ⟨4, 1, 5⟩ (.ident ⟨0, 1, 1⟩ "Does") "Not") "Contain",
    .builtin .doesNotContain, ?_, .doesNotContain _ _ _, rfl⟩
  with_unfolding_all rfl

end

/-- What is listed is what can be called, each once. -/
structure NamesFactories (r : Registry) : Prop where
  called : ∀ name ∈ r.factoryNames, r.CanCall name
  listed : ∀ pos name f, r.Evaluates (.ident pos name) (.factory f) → name ∈ r.factoryNames
  once : r.factoryNames.Nodup

section
variable {r : Registry} (h : r.Reached)
include h

theorem nodup_factoryNames_iff : r.factoryNames.Nodup ↔
    ¬ r.contains "Is.Not" = true ∧ ¬ r.contains "Does.Not.Contain" = true := by
  have hbuiltin : (Builtin.words ++ [Builtin.isNot.name, Builtin.doesNotContain.name]).Nodup := by
    decide
  have hkinds : (r.kinds.filter fun kind =>
      !structuralKinds.contains kind && !Builtin.words.contains kind).Nodup :=
    h.sortedKeys.nodup_keys.filter _
  rw [← mem_kinds_iff h, ← mem_kinds_iff h, factoryNames, List.nodup_append]
  rw [and_iff_right hbuiltin, and_iff_right hkinds]
  have hmembers : ∀ name ∈ [Builtin.isNot.name, Builtin.doesNotContain.name],
      (!structuralKinds.contains name && !Builtin.words.contains name) = true := by
    decide
  constructor
  · intro hne
    have hlisted : ∀ name ∈ [Builtin.isNot.name, Builtin.doesNotContain.name], name ∉ r.kinds := by
      intro name hname hkind
      have hlist : name ∈ Builtin.words ++ [Builtin.isNot.name, Builtin.doesNotContain.name] :=
        List.mem_append_right _ hname
      exact hne name hlist name (List.mem_filter.2 ⟨hkind, hmembers name hname⟩) rfl
    exact ⟨hlisted _ List.mem_cons_self, hlisted _ (List.mem_cons_of_mem _ List.mem_cons_self)⟩
  · rintro ⟨hisNot, hdoesNot⟩ name hname kind hkept rfl
    obtain ⟨hkind, hother⟩ := List.mem_filter.1 hkept
    rcases List.mem_append.1 hname with hword | hmember
    · simp [hword] at hother
    · rcases List.mem_pair.1 hmember with rfl | rfl
      · exact hisNot hkind
      · exact hdoesNot hkind

theorem listed_of_factory {pos : Position} {name : String} {f : Factory}
    (hf : r.Evaluates (.ident pos name) (.factory f)) : name ∈ r.factoryNames := by
  rw [mem_factoryNames_iff, mem_kinds_iff h]
  rcases global_factory_iff.1 ⟨f, evaluates_ident_iff.1 hf⟩ with hword | ⟨hkind, -⟩
  · exact .inl hword
  · exact .inr (.inr (.inr hkind))

theorem namesFactories_iff : r.NamesFactories ↔ ∀ kind, r.contains kind = true →
    r.CanCall kind ∧ kind ≠ "Is.Not" ∧ kind ≠ "Does.Not.Contain" := by
  constructor
  · intro hnames kind hkind
    obtain ⟨hisNot, hdoesNot⟩ := (nodup_factoryNames_iff h).1 hnames.once
    have hlisted : kind ∈ r.factoryNames :=
      mem_factoryNames_iff.2 (.inr (.inr (.inr ((mem_kinds_iff h).2 hkind))))
    exact ⟨hnames.called kind hlisted, fun heq => hisNot (heq ▸ hkind), fun heq => hdoesNot (heq ▸ hkind)⟩
  · intro hkinds
    refine ⟨fun name hname => ?_, fun _ _ _ => listed_of_factory h, ?_⟩
    · rcases mem_factoryNames_iff.1 hname with hword | rfl | rfl | hkind
      · exact canCall_word hword
      · exact canCall_isNot r
      · exact canCall_doesNotContain r
      · exact (hkinds name ((mem_kinds_iff h).1 hkind)).1
    · exact (nodup_factoryNames_iff h).2
        ⟨fun hkind => (hkinds _ hkind).2.1 rfl, fun hkind => (hkinds _ hkind).2.2 rfl⟩

end

/-- How the list of a registry and what can be called are related. -/
structure Lists (r : Registry) : Prop where
  /-- Each name by itself is listed if it stands for a factory. -/
  listed : ∀ pos name f, r.Evaluates (.ident pos name) (.factory f) → name ∈ r.factoryNames
  /-- Under the name of a kind, if it is one, a factory can be called unless a namespace is there. -/
  called : ∀ kind, r.contains kind = true → IsName kind → (r.CanCall kind ↔ kind ≠ "Is" ∧ kind ≠ "Does")
  /-- So the list is right if kinds have such names, -/
  named : (∀ kind, r.contains kind = true → IsName kind ∧ kind ≠ "Is" ∧ kind ≠ "Does") → r.NamesFactories
  /-- and just if each can be called by its name, which is not that of a member of a namespace. -/
  exact : r.NamesFactories ↔ ∀ kind, r.contains kind = true →
    r.CanCall kind ∧ kind ≠ "Is.Not" ∧ kind ≠ "Does.Not.Contain"

theorem lists_factories {r : Registry} (h : r.Reached) : r.Lists := by
  have hcalled : ∀ kind, r.contains kind = true → IsName kind →
      (r.CanCall kind ↔ kind ≠ "Is" ∧ kind ≠ "Does") := by
    intro kind hkind hname
    rw [canCall_iff hname, and_iff_right hkind, or_iff_right_iff_imp]
    intro hword
    constructor <;> (rintro rfl; revert hword; decide)
  have hexact := namesFactories_iff h
  refine ⟨fun _ _ _ => listed_of_factory h, hcalled, fun hkinds => hexact.2 fun kind hkind => ?_, hexact⟩
  obtain ⟨hname, hspace⟩ := hkinds kind hkind
  refine ⟨(hcalled kind hkind hname).2 hspace, ?_, ?_⟩
  all_goals
    rintro rfl
    revert hname
    decide

/-- With one more kind of an ordinary name the list is right. -/
theorem lists_factories_zip : (standard.register "Zip" (.standard .url)).NamesFactories := by
  have hlists := lists_factories (reached_standard.register "Zip" (.standard .url))
  refine hlists.named fun kind hkind => ?_
  have hall : ∀ kind ∈ "Zip" :: standard.kinds, IsName kind ∧ kind ≠ "Is" ∧ kind ≠ "Does" := by
    decide +kernel
  refine hall kind ?_
  rw [contains_register, Bool.or_eq_true, decide_eq_true_iff] at hkind
  exact List.mem_cons.2 (hkind.imp_right (mem_kinds_iff reached_standard).2)

/-- A kind under the name of a namespace is listed, but it cannot be called. -/
theorem not_forall_namesFactories : ¬ ∀ r : Registry, r.Reached → r.NamesFactories := by
  intro hall
  have hreached := reached_standard.register "Is" (.standard .url)
  have hkind : "Is" ∈ (standard.register "Is" (.standard .url)).kinds := by
    rw [mem_kinds_iff hreached, contains_register]
    rfl
  have hcalled := (hall _ hreached).called "Is" (mem_factoryNames_iff.2 (.inr (.inr (.inr hkind))))
  rcases (canCall_iff (by decide)).1 hcalled with hword | ⟨-, hne, -⟩
  · revert hword
    decide
  · exact hne rfl

end Registry
end Rulebook
