import Rulebook.Proofs.Matching
import Rulebook.Proofs.Versions

/-!
# The pattern of a version

Versions are read by hand. As a regex, the pattern below matches the same texts: it is read to its syntax part
by part, its syntax becomes a tree, and what the tree takes is put together from what its parts take.
-/

namespace Rulebook.Regex

/-! ## Reading a pattern part by part -/

/-- What encloses a place of a pattern, and what stands before it. -/
structure Place where
  frames : List Frame
  parts : List Syntax

/-- A text is read from one place to another if no question mark follows it. No round takes less than a
character. -/
def ReadsTo (text : String) (p q : Place) : Prop :=
  ∃ rounds ≤ text.toList.length, ∀ n rest, List.head? rest ≠ some '?' →
    readFrom (n + rounds) p.frames p.parts ⟨text.toList ++ rest, false, []⟩ =
      readFrom n q.frames q.parts ⟨rest, false, []⟩

theorem ReadsTo.append {text text' : String} {p q r : Place} (h : ReadsTo text p q) (h' : ReadsTo text' q r)
    (hhead : text'.toList.head?.any (· ≠ '?') = true) : ReadsTo (text ++ text') p r := by
  obtain ⟨m, hm, h⟩ := h
  obtain ⟨n, hn, h'⟩ := h'
  refine ⟨n + m, by rw [String.toList_append, List.length_append]; omega, fun k rest hrest => ?_⟩
  have hnext : (text'.toList ++ rest).head? ≠ some '?' := by
    cases htext : text'.toList with
    | nil => simp [htext] at hhead
    | cons c cs => simpa [htext] using hhead
  rw [String.toList_append, List.append_assoc, ← Nat.add_assoc, h _ _ hnext, h' k rest hrest]

section
variable {rest : List Char} (hrest : rest.head? ≠ some '?')
include hrest

theorem isPrefixOf_question (cs : List Char) : ('?' :: cs).isPrefixOf rest = false := by
  cases rest with
  | nil => rfl
  | cons c rest =>
    have hc : ('?' == c) = false := beq_eq_false_iff_ne.2 fun h => hrest (congrArg some h.symm)
    rw [List.isPrefixOf, hc, Bool.false_and]

theorem bumpIf_question (text : String) {cs : List Char} (htext : text.toList = '?' :: cs) :
    (bumpIf text).run ⟨rest, false, []⟩ = some (false, ⟨rest, false, []⟩) := by
  change (if text.toList.isPrefixOf rest then _ else pure false : Read Bool) ⟨rest, false, []⟩ = _
  rw [htext, isPrefixOf_question hrest]
  rfl

theorem openGroup_eq : openGroup.run ⟨'(' :: rest, false, []⟩ = some (.inr [], ⟨rest, false, []⟩) := by
  have hlook : isLookaround rest = false := by simp [isLookaround, isPrefixOf_question hrest]
  simp [openGroup, bump, skipSpace, hlook, bumpIf_question hrest "?P<" rfl, bumpIf_question hrest "?<" rfl,
    bumpIf_question hrest "?" rfl]

theorem readRepetition_eq {s : Syntax} (hs : ∀ parts, repeatable (s :: parts) = pure (s, parts)) (min : Nat)
    (max : Option Nat) (parts : List Syntax) (c : Char) :
    (readRepetition min max (s :: parts)).run ⟨c :: rest, false, []⟩ =
      some (.repeated s min max :: parts, ⟨rest, false, []⟩) := by
  simp [readRepetition, hs, bump, peek, hrest]

end

section
variable (s : Syntax) (hs : ∀ parts, repeatable (s :: parts) = pure (s, parts)) (frames : List Frame)
  (parts before : List Syntax)

theorem reads_group : ReadsTo "(" ⟨frames, parts⟩ ⟨.group [] parts false :: frames, []⟩ := by
  refine ⟨1, by decide, fun n rest hrest => ?_⟩
  change Option.bind (openGroup.run ⟨'(' :: rest, false, []⟩) _ = _
  rw [openGroup_eq hrest]
  rfl

theorem reads_plain : ReadsTo "(?:" ⟨frames, parts⟩ ⟨.group [] parts false :: frames, []⟩ := by
  refine ⟨1, by decide, fun n rest _ => ?_⟩
  with_unfolding_all rfl

theorem reads_close : ReadsTo ")" ⟨.group [] before false :: frames, parts⟩
    ⟨frames, .group [] (concatOf parts) :: before⟩ := by
  refine ⟨1, by decide, fun n rest _ => ?_⟩
  with_unfolding_all rfl

theorem reads_close_alternation (options : List Syntax) :
    ReadsTo ")" ⟨.alternation options :: .group [] before false :: frames, parts⟩
      ⟨frames, .group [] (.alternation (concatOf parts :: options).reverse) :: before⟩ := by
  refine ⟨1, by decide, fun n rest _ => ?_⟩
  with_unfolding_all rfl

include hs

theorem reads_star : ReadsTo "*" ⟨frames, s :: parts⟩ ⟨frames, .repeated s 0 none :: parts⟩ := by
  refine ⟨1, by decide, fun n rest hrest => ?_⟩
  change ((readRepetition 0 none (s :: parts)).run ⟨'*' :: rest, false, []⟩).bind
    (fun p => readFrom n frames p.1 p.2) = _
  rw [readRepetition_eq hrest hs]
  rfl

theorem reads_plus : ReadsTo "+" ⟨frames, s :: parts⟩ ⟨frames, .repeated s 1 none :: parts⟩ := by
  refine ⟨1, by decide, fun n rest hrest => ?_⟩
  change ((readRepetition 1 none (s :: parts)).run ⟨'+' :: rest, false, []⟩).bind
    (fun p => readFrom n frames p.1 p.2) = _
  rw [readRepetition_eq hrest hs]
  rfl

omit hs in
/-- A group that is optional, though a question mark follows its end. -/
theorem reads_optional : ReadsTo ")?" ⟨.group [] before false :: frames, parts⟩
    ⟨frames, .repeated (.group [] (concatOf parts)) 0 (some 1) :: before⟩ := by
  refine ⟨2, by decide, fun n rest hrest => ?_⟩
  change ((readRepetition 0 (some 1) (.group [] (concatOf parts) :: before)).run
    ⟨'?' :: rest, false, []⟩).bind (fun p => readFrom n frames p.1 p.2) = _
  rw [readRepetition_eq hrest fun _ => rfl]
  rfl

end

/-! ## What syntax means -/

/-- The flags of a pattern without any. -/
def plainFlags : Flags := ⟨false, false, false, true, false⟩

/-- A tree is made, without a change of flags, and takes the parts of texts that `P` says. -/
def Means (made : Option (Tree × Flags)) (P : List Char → List Char → List Char → Prop) : Prop :=
  ∃ t, made = some (t, plainFlags) ∧ ∀ before cs after, t.Takes before cs after ↔ P before cs after

namespace Means

variable {s : Syntax} {ss : List Syntax} {P Q : List Char → List Char → List Char → Prop}

theorem congr {made : Option (Tree × Flags)} (h : Means made P)
    (hiff : ∀ before cs after, P before cs after ↔ Q before cs after) : Means made Q := by
  obtain ⟨t, ht, htakes⟩ := h
  exact ⟨t, ht, fun before cs after => (htakes before cs after).trans (hiff before cs after)⟩

theorem noParts : Means (Tree.ofParts plainFlags []) fun _ cs _ => cs = [] :=
  ⟨.empty, rfl, fun _ _ _ => Iff.rfl⟩

theorem parts (h : Means (Tree.ofSyntax plainFlags s) P) (h' : Means (Tree.ofParts plainFlags ss) Q) :
    Means (Tree.ofParts plainFlags (s :: ss)) fun before cs after =>
      ∃ part rest, cs = part ++ rest ∧ P before part (rest ++ after) ∧ Q (before ++ part) rest after := by
  obtain ⟨t, ht, htakes⟩ := h
  obtain ⟨u, hu, htakes'⟩ := h'
  refine ⟨.cat t u, by rw [Tree.ofParts, ht]; simp [hu], fun before cs after => ?_⟩
  simp only [Tree.Takes, htakes, htakes']

theorem noOptions : Means (Tree.ofOptions plainFlags []) fun _ _ _ => False :=
  ⟨.none, rfl, fun _ _ _ => Iff.rfl⟩

theorem options (h : Means (Tree.ofSyntax plainFlags s) P) (h' : Means (Tree.ofOptions plainFlags ss) Q) :
    Means (Tree.ofOptions plainFlags (s :: ss)) fun before cs after =>
      P before cs after ∨ Q before cs after := by
  obtain ⟨t, ht, htakes⟩ := h
  obtain ⟨u, hu, htakes'⟩ := h'
  refine ⟨.alt t u, by rw [Tree.ofOptions, ht]; simp [hu], fun before cs after => ?_⟩
  simp only [Tree.Takes, htakes, htakes']

theorem concat (h : Means (Tree.ofParts plainFlags ss) P) :
    Means (Tree.ofSyntax plainFlags (.concat ss)) P := by
  rwa [Tree.ofSyntax]

theorem alternation (h : Means (Tree.ofOptions plainFlags ss) P) :
    Means (Tree.ofSyntax plainFlags (.alternation ss)) P := by
  rwa [Tree.ofSyntax]

theorem group (h : Means (Tree.ofSyntax plainFlags s) P) :
    Means (Tree.ofSyntax plainFlags (.group [] s)) P := by
  obtain ⟨t, ht, htakes⟩ := h
  have hflags : plainFlags.apply [] = plainFlags := rfl
  refine ⟨t, by rw [Tree.ofSyntax, hflags, ht]; rfl, htakes⟩

theorem assertion (a : Assertion) : Means (Tree.ofSyntax plainFlags (.assertion a)) fun before cs after =>
    cs = [] ∧ (plainFlags.look a).holds before.getLast? after.head? = true :=
  ⟨.look (plainFlags.look a), by rw [Tree.ofSyntax], fun _ _ _ => Iff.rfl⟩

theorem startLine (h : Means (Tree.ofParts plainFlags ss) P) :
    Means (Tree.ofParts plainFlags (.assertion .startLine :: ss)) fun before cs after =>
      before = [] ∧ P [] cs after := by
  refine (parts (assertion .startLine) h).congr fun before cs after => ?_
  constructor
  · rintro ⟨_, _, rfl, ⟨rfl, hstart⟩, h⟩
    obtain rfl := List.getLast?_eq_none_iff.1 (Option.isNone_iff_eq_none.1 hstart)
    exact ⟨rfl, h⟩
  · rintro ⟨rfl, h⟩
    exact ⟨[], cs, rfl, ⟨rfl, rfl⟩, h⟩

theorem endLine : Means (Tree.ofParts plainFlags [.assertion .endLine]) fun _ cs after =>
    cs = [] ∧ after = [] := by
  refine (parts (assertion .endLine) noParts).congr fun before cs after => ?_
  constructor
  · rintro ⟨_, _, rfl, ⟨rfl, hend⟩, rfl⟩
    exact ⟨rfl, List.head?_eq_none_iff.1 (Option.isNone_iff_eq_none.1 hend)⟩
  · rintro ⟨rfl, rfl⟩
    exact ⟨[], [], rfl, ⟨rfl, rfl⟩, rfl⟩

theorem chars {made : Option (Tree × Flags)} {set : Ranges} (h : made = some (.chars set, plainFlags))
    {p : Char → Prop} (hset : ∀ c, set.has c = true ↔ p c) : Means made fun _ cs _ => ∃ c, cs = [c] ∧ p c :=
  ⟨.chars set, h, fun _ _ _ => by simp only [Tree.Takes, hset]⟩

end Means

/-- Where context does not count, parts that follow each other are a list of them. -/
theorem repeats_iff {takes : List Char → List Char → List Char → Prop} {P : List Char → Prop}
    (h : ∀ before cs after, takes before cs after ↔ P cs) {n : Nat} {before cs after : List Char} :
    Repeats takes n before cs after ↔
      ∃ parts : List (List Char), parts.length = n ∧ (∀ p ∈ parts, P p) ∧ cs = parts.flatten := by
  induction n generalizing before cs after with
  | zero =>
    constructor
    · rintro rfl
      exact ⟨[], rfl, nofun, rfl⟩
    · rintro ⟨parts, hlength, -, rfl⟩
      rw [List.length_eq_zero_iff.1 hlength]
      rfl
  | succ n ih =>
    constructor
    · rintro ⟨part, rest, rfl, hpart, hrest⟩
      obtain ⟨parts, rfl, hparts, rfl⟩ := ih.1 hrest
      exact ⟨part :: parts, rfl, List.forall_mem_cons.2 ⟨(h ..).1 hpart, hparts⟩, rfl⟩
    · rintro ⟨parts, hlength, hparts, rfl⟩
      obtain ⟨part, parts, rfl⟩ := List.exists_cons_of_length_eq_add_one hlength
      obtain ⟨hpart, hparts⟩ := List.forall_mem_cons.1 hparts
      exact ⟨part, parts.flatten, rfl, (h ..).2 hpart, ih.2 ⟨parts, Nat.succ.inj hlength, hparts, rfl⟩⟩

theorem Means.repeated {s : Syntax} {P : List Char → Prop}
    (h : Means (Tree.ofSyntax plainFlags s) fun _ cs _ => P cs) (min : Nat) (max : Option Nat) :
    Means (Tree.ofSyntax plainFlags (.repeated s min max)) fun _ cs _ =>
      ∃ more, (∀ m ∈ max, more ≤ m - min) ∧
        ∃ parts : List (List Char), parts.length = min + more ∧ (∀ p ∈ parts, P p) ∧ cs = parts.flatten := by
  obtain ⟨t, ht, htakes⟩ := h
  refine ⟨.repeated t min max, by rw [Tree.ofSyntax, ht]; rfl, fun before cs after => ?_⟩
  simp only [Tree.Takes, repeats_iff htakes]

theorem Means.repeatedChars {s : Syntax} {p : Char → Prop}
    (h : Means (Tree.ofSyntax plainFlags s) fun _ cs _ => ∃ c, cs = [c] ∧ p c) (min : Nat) :
    Means (Tree.ofSyntax plainFlags (.repeated s min none)) fun _ cs _ =>
      min ≤ cs.length ∧ ∀ c ∈ cs, p c := by
  refine (h.repeated min none).congr fun _ cs _ => ?_
  constructor
  · rintro ⟨more, -, parts, hlength, hparts, rfl⟩
    have hchars : ∀ q ∈ parts, q.length = 1 := fun q hq => by
      obtain ⟨c, rfl, -⟩ := hparts q hq
      rfl
    refine ⟨?_, fun c hc => ?_⟩
    · rw [List.length_flatten, List.map_congr_left hchars]
      simp [hlength]
    · obtain ⟨q, hq, hc⟩ := List.mem_flatten.1 hc
      obtain ⟨d, rfl, hd⟩ := hparts q hq
      rwa [List.mem_singleton.1 hc]
  · rintro ⟨hmin, hall⟩
    have hflatten : cs = (cs.map ([·])).flatten := by rw [← List.flatMap_def, List.flatMap_singleton']
    refine ⟨cs.length - min, nofun, cs.map ([·]), ?_, ?_, hflatten⟩
    · rw [List.length_map]
      omega
    · rw [List.forall_mem_map]
      exact fun c hc => ⟨c, rfl, hall c hc⟩

theorem has_range {a b : Nat} (hab : a ≤ b) (c : Char) :
    (CharSet.range a b).toRanges.has c = true ↔ a ≤ c.toNat ∧ c.toNat ≤ b := by
  have hordered : Ranges.Ordered (CharSet.range a b).toRanges.spans.toList :=
    ⟨List.pairwise_singleton .., List.forall_mem_singleton.2 hab⟩
  refine (Ranges.holds_iff hordered c.toNat).trans ?_
  simp [CharSet.range, CharSet.toRanges, Ranges.Covers]

theorem has_digitChars (c : Char) : (CharSet.ofRanges digitChars).toRanges.has c = digitChars.has c := by
  have hordered := Category.ordered_charsOf [.decimalNumber]
  rw [Bool.eq_iff_iff]
  exact (CharSet.has_ofSpans hordered.nonempty c).trans (Ranges.holds_iff hordered c.toNat).symm

theorem compile_plain {pattern : String} {s : Syntax} {t : Tree} {flags : Flags}
    (hs : Syntax.ofText pattern false = some s) (ht : Tree.ofSyntax plainFlags s = some (t, flags)) :
    compile pattern "" = if t.size ≤ maxSize then .ok ⟨pattern, t⟩ else .error .tooLarge := by
  have hunset : ∀ c, "".toList.contains c = false := fun _ => rfl
  rw [plainFlags] at ht
  simp only [compile, hunset, hs, ht]

end Rulebook.Regex

namespace Rulebook.Semver

open Regex (Place ReadsTo Tree Syntax ClassSet)

/-! ## The pattern and its syntax -/

/-- A part and more of them after dots, as a group. -/
def dottedText (part : String) : String :=
  "(" ++ (part ++ ("(?:" ++ (r"\." ++ (part ++ (")" ++ ("*" ++ ")"))))))

/-- What a mark leads in, if it is there. -/
def markedText (mark part : String) : String := "(?:" ++ (mark ++ (dottedText part ++ ")?"))

def numberText : String := r"(0|[1-9]\d*)"

def identText : String := r"(?:0|[1-9]\d*|\d" ++ ("*" ++ ("[a-zA-Z-]" ++ ("[0-9a-zA-Z-]" ++ ("*" ++ ")"))))

def buildText : String := "[0-9a-zA-Z-]" ++ "+"

def pattern : String :=
  "^" ++ (numberText ++ (r"\." ++ (numberText ++ (r"\." ++ (numberText ++ (markedText "-" identText ++
    (markedText r"\+" buildText ++ "$")))))))

/-- The pattern in one piece. -/
example : pattern = r"^(0|[1-9]\d*)\.(0|[1-9]\d*)\.(0|[1-9]\d*)" ++
    r"(?:-((?:0|[1-9]\d*|\d*[a-zA-Z-][0-9a-zA-Z-]*)(?:\.(?:0|[1-9]\d*|\d*[a-zA-Z-][0-9a-zA-Z-]*))*))?" ++
    r"(?:\+([0-9a-zA-Z-]+(?:\.[0-9a-zA-Z-]+)*))?$" := by
  decide +kernel

def single (c : Char) : Syntax := .literal ⟨c, false⟩

def span (a b : Char) : ClassSet := .range ⟨a, false⟩ ⟨b, false⟩

def letters : Syntax := .cls false (.union [span 'a' 'z', span 'A' 'Z', .literal ⟨'-', false⟩])

def identChars : Syntax :=
  .cls false (.union [span '0' '9', span 'a' 'z', span 'A' 'Z', .literal ⟨'-', false⟩])

def digits : Syntax := .repeated (.perl false .digit) 0 none

def positive : Syntax := .concat [.cls false (span '1' '9'), digits]

def number : Syntax := .group [] (.alternation [single '0', positive])

def ident : Syntax :=
  .group [] (.alternation [single '0', positive, .concat [digits, letters, .repeated identChars 0 none]])

def buildIdent : Syntax := .repeated identChars 1 none

def dottedSyntax (part : Syntax) : Syntax :=
  .group [] (.concat [part, .repeated (.group [] (.concat [single '.', part])) 0 none])

def markedSyntax (mark : Char) (part : Syntax) : Syntax :=
  .repeated (.group [] (.concat [single mark, dottedSyntax part])) 0 (some 1)

def patternSyntax : Syntax :=
  .concat [.assertion .startLine, number, single '.', number, single '.', number, markedSyntax '-' ident,
    markedSyntax '+' buildIdent, .assertion .endLine]

section
variable (frames : List Regex.Frame) (parts : List Syntax)

theorem reads_start : ReadsTo "^" ⟨frames, parts⟩ ⟨frames, .assertion .startLine :: parts⟩ :=
  ⟨1, by decide, fun n rest _ => by with_unfolding_all rfl⟩

theorem reads_end : ReadsTo "$" ⟨frames, parts⟩ ⟨frames, .assertion .endLine :: parts⟩ :=
  ⟨1, by decide, fun n rest _ => by with_unfolding_all rfl⟩

theorem reads_number : ReadsTo numberText ⟨frames, parts⟩ ⟨frames, number :: parts⟩ :=
  ⟨7, by decide, fun n rest _ => by with_unfolding_all rfl⟩

theorem reads_letters : ReadsTo "[a-zA-Z-]" ⟨frames, parts⟩ ⟨frames, letters :: parts⟩ :=
  ⟨1, by decide, fun n rest _ => by with_unfolding_all rfl⟩

theorem reads_identChars : ReadsTo "[0-9a-zA-Z-]" ⟨frames, parts⟩ ⟨frames, identChars :: parts⟩ :=
  ⟨1, by decide, fun n rest _ => by with_unfolding_all rfl⟩

theorem reads_dot : ReadsTo r"\." ⟨frames, parts⟩ ⟨frames, single '.' :: parts⟩ :=
  ⟨1, by decide, fun n rest _ => by with_unfolding_all rfl⟩

theorem reads_ident : ReadsTo identText ⟨frames, parts⟩ ⟨frames, ident :: parts⟩ := by
  have hopen : ReadsTo r"(?:0|[1-9]\d*|\d" ⟨frames, parts⟩
      ⟨.alternation [positive, single '0'] :: .group [] parts false :: frames, [.perl false .digit]⟩ :=
    ⟨8, by decide, fun n rest _ => by with_unfolding_all rfl⟩
  exact hopen.append ((Regex.reads_star _ (fun _ => rfl) ..).append ((reads_letters ..).append
    ((reads_identChars ..).append ((Regex.reads_star _ (fun _ => rfl) ..).append
      (Regex.reads_close_alternation ..) (by decide)) (by decide)) (by decide)) (by decide)) (by decide)

theorem reads_build : ReadsTo buildText ⟨frames, parts⟩ ⟨frames, buildIdent :: parts⟩ :=
  (reads_identChars ..).append (Regex.reads_plus _ (fun _ => rfl) ..) (by decide)

theorem head_append {text : String} (hhead : text.toList.head?.any (· ≠ '?') = true) (rest : String) :
    (text ++ rest).toList.head?.any (· ≠ '?') = true := by
  rw [String.toList_append]
  cases htext : text.toList with
  | nil => simp [htext] at hhead
  | cons c cs => simpa [htext] using hhead

section
variable {text : String} {s : Syntax} (hhead : text.toList.head?.any (· ≠ '?') = true)
  (h : ∀ frames parts, ReadsTo text ⟨frames, parts⟩ ⟨frames, s :: parts⟩)
include hhead h

theorem reads_dotted : ReadsTo (dottedText text) ⟨frames, parts⟩ ⟨frames, dottedSyntax s :: parts⟩ :=
  (Regex.reads_group ..).append ((h ..).append ((Regex.reads_plain ..).append ((reads_dot ..).append
    ((h ..).append ((Regex.reads_close ..).append ((Regex.reads_star _ (fun _ => rfl) ..).append
      (Regex.reads_close ..) (by decide)) (by decide)) (by decide)) (head_append hhead _)) (by simp))
    (by simp)) (head_append hhead _)

theorem reads_marked {mark : String} {c : Char} (hmark : mark.toList.head?.any (· ≠ '?') = true)
    (hreads : ∀ frames parts, ReadsTo mark ⟨frames, parts⟩ ⟨frames, single c :: parts⟩) :
    ReadsTo (markedText mark text) ⟨frames, parts⟩ ⟨frames, markedSyntax c s :: parts⟩ :=
  (Regex.reads_plain ..).append ((hreads ..).append ((reads_dotted _ _ hhead h).append
    (Regex.reads_optional ..) (by decide)) (by simp [dottedText])) (head_append hmark _)

end

theorem reads_pattern : ReadsTo pattern ⟨[], []⟩ ⟨[], [.assertion .endLine, markedSyntax '+' buildIdent,
    markedSyntax '-' ident, number, single '.', number, single '.', number, .assertion .startLine]⟩ := by
  have hdash : ∀ frames parts, ReadsTo "-" ⟨frames, parts⟩ ⟨frames, single '-' :: parts⟩ := fun _ _ =>
    ⟨1, by decide, fun n rest _ => by with_unfolding_all rfl⟩
  have hplus : ∀ frames parts, ReadsTo r"\+" ⟨frames, parts⟩ ⟨frames, single '+' :: parts⟩ := fun _ _ =>
    ⟨1, by decide, fun n rest _ => by with_unfolding_all rfl⟩
  have hprerelease : ∀ frames parts, ReadsTo (markedText "-" identText) ⟨frames, parts⟩
      ⟨frames, markedSyntax '-' ident :: parts⟩ := fun frames parts =>
    reads_marked frames parts (by decide) reads_ident (by decide) hdash
  have hbuild : ∀ frames parts, ReadsTo (markedText r"\+" buildText) ⟨frames, parts⟩
      ⟨frames, markedSyntax '+' buildIdent :: parts⟩ := fun frames parts =>
    reads_marked frames parts (by decide) reads_build (by decide) hplus
  have hmarks := fun parts => (hprerelease [] parts).append ((hbuild ..).append (reads_end ..) (by decide))
    (by simp [markedText])
  exact (reads_start ..).append ((reads_number ..).append ((reads_dot ..).append ((reads_number ..).append
    ((reads_dot ..).append ((reads_number ..).append (hmarks _) (by simp [markedText]))
    (by simp [numberText])) (by simp)) (by simp [numberText])) (by simp)) (by simp [numberText])

theorem ofText_pattern : Syntax.ofText pattern false = some patternSyntax := by
  obtain ⟨rounds, hrounds, h⟩ := reads_pattern
  obtain ⟨n, hn⟩ : ∃ n, pattern.toList.length + 2 = (n + 2) + rounds :=
    ⟨pattern.toList.length - rounds, by omega⟩
  have hread := h (n + 2) [] (by simp)
  rw [List.append_nil] at hread
  rw [Syntax.ofText, hn, hread]
  rfl

end

/-! ## What the pattern matches -/

open Regex (plainFlags Means)

theorem means_single (c : Char) : Means (Tree.ofSyntax plainFlags (single c)) fun _ cs _ => cs = [c] := by
  have hset : ∀ d, (CharSet.single c).toRanges.has d = true ↔ d = c := fun d => by
    refine (Regex.has_range (Nat.le_refl c.toNat) d).trans ?_
    rw [← Char.toNat_inj]
    omega
  exact (Means.chars rfl hset).congr fun _ cs _ => by simp

theorem means_single_parts (c : Char) {ss : List Syntax} {P : List Char → List Char → List Char → Prop}
    (h : Means (Tree.ofParts plainFlags ss) P) :
    Means (Tree.ofParts plainFlags (single c :: ss)) fun before cs after =>
      ∃ rest, cs = c :: rest ∧ P (before ++ [c]) rest after := by
  refine (Means.parts (means_single c) h).congr fun before cs after => ?_
  constructor
  · rintro ⟨_, rest, rfl, rfl, h⟩
    exact ⟨rest, rfl, h⟩
  · rintro ⟨rest, rfl, h⟩
    exact ⟨[c], rest, rfl, rfl, h⟩

theorem means_digits : Means (Tree.ofSyntax plainFlags digits) fun _ cs _ =>
    ∀ c ∈ cs, decimalDigits.has c = true := by
  have hdigit : Means (Tree.ofSyntax plainFlags (.perl false .digit)) fun _ cs _ =>
      ∃ c, cs = [c] ∧ decimalDigits.has c = true :=
    Means.chars rfl fun c => Bool.eq_iff_iff.1 (Regex.has_digitChars c)
  exact (hdigit.repeatedChars 0).congr fun _ cs _ => by simp

theorem means_class {made : Option (Tree × Regex.Flags)} {spans : List (Nat × Nat)}
    (h : made = some (.chars (CharSet.ofSpans spans).toRanges, plainFlags)) (hspans : ∀ s ∈ spans, s.1 ≤ s.2)
    {p : Char → Prop} (hp : ∀ c : Char, (∃ s ∈ spans, Ranges.Covers c.toNat s) ↔ p c) :
    Means made fun _ cs _ => ∃ c, cs = [c] ∧ p c :=
  Means.chars h fun c => (CharSet.has_ofSpans hspans c).trans (hp c)

theorem means_letters : Means (Tree.ofSyntax plainFlags letters) fun _ cs _ =>
    ∃ c, cs = [c] ∧ (c.isAlpha = true ∨ c = '-') := by
  have hmade : Tree.ofSyntax plainFlags letters =
      some (.chars (CharSet.ofSpans [(97, 122), (65, 90), (45, 45)]).toRanges, plainFlags) := rfl
  refine means_class hmade (by decide) fun c => ?_
  rw [isAlpha_iff, ← Char.toNat_inj]
  simp [Ranges.Covers]
  omega

theorem means_identChars : Means (Tree.ofSyntax plainFlags identChars) fun _ cs _ =>
    ∃ c, cs = [c] ∧ isIdentChar c = true := by
  have hmade : Tree.ofSyntax plainFlags identChars =
      some (.chars (CharSet.ofSpans [(48, 57), (97, 122), (65, 90), (45, 45)]).toRanges, plainFlags) := rfl
  refine means_class hmade (by decide) fun c => ?_
  simp [Ranges.Covers, isIdentChar, Char.isAlphanum, isAlpha_iff, isDigit_iff, ← Char.toNat_inj]
  omega

theorem means_positive : Means (Tree.ofSyntax plainFlags positive) fun _ cs _ =>
    ∃ c rest, cs = c :: rest ∧ '1' ≤ c ∧ c ≤ '9' ∧ ∀ d ∈ rest, decimalDigits.has d = true := by
  have hfirst : Means (Tree.ofSyntax plainFlags (.cls false (span '1' '9'))) fun _ cs _ =>
      ∃ c, cs = [c] ∧ '1' ≤ c ∧ c ≤ '9' := Means.chars rfl fun c => Regex.has_range (by decide) c
  refine (Means.parts hfirst (Means.parts means_digits Means.noParts)).concat.congr fun _ cs _ => ?_
  constructor
  · rintro ⟨_, _, rfl, ⟨c, rfl, hlo, hhi⟩, rest, _, rfl, hrest, rfl⟩
    exact ⟨c, rest, by simp, hlo, hhi, hrest⟩
  · rintro ⟨c, rest, rfl, hlo, hhi, hrest⟩
    exact ⟨[c], rest, rfl, ⟨c, rfl, hlo, hhi⟩, rest, [], by simp, hrest, rfl⟩

theorem means_number : Means (Tree.ofSyntax plainFlags number) fun _ cs _ => Numeric decimalDigits.has cs :=
  (Means.options (means_single '0') (Means.options means_positive Means.noOptions)).alternation.group.congr
    fun _ cs _ => by simp [Numeric]

theorem means_ident : Means (Tree.ofSyntax plainFlags ident) fun _ cs _ => Grammar.decimal.prerelease cs := by
  have hword := (Means.parts means_digits (Means.parts means_letters
    (Means.parts (means_identChars.repeatedChars 0) Means.noParts))).concat
  refine (Means.options (means_single '0') (Means.options means_positive
    (Means.options hword Means.noOptions))).alternation.group.congr fun _ cs _ => ?_
  constructor
  · rintro (h | h | ⟨digits, _, rfl, hdigits, _, _, rfl, ⟨c, rfl, hc⟩, rest, _, rfl, ⟨-, hrest⟩, rfl⟩ | ⟨⟨⟩⟩)
    · exact .inl (.inl h)
    · exact .inl (.inr h)
    · exact .inr ⟨digits, c, rest, by simp, hdigits, hc, hrest⟩
  · rintro ((h | h) | ⟨digits, c, rest, rfl, hdigits, hc, hrest⟩)
    · exact .inl h
    · exact .inr (.inl h)
    · exact .inr (.inr (.inl ⟨digits, c :: rest, rfl, hdigits, [c], rest, rfl, ⟨c, rfl, hc⟩, rest, [],
        by simp, ⟨Nat.zero_le _, hrest⟩, rfl⟩))

theorem means_build : Means (Tree.ofSyntax plainFlags buildIdent) fun _ cs _ => Ident cs :=
  (means_identChars.repeatedChars 1).congr fun _ cs _ => by
    simp [Ident, Nat.one_le_iff_ne_zero]

theorem intercalate_cons (p : List Char) (parts : List (List Char)) :
    ['.'].intercalate (p :: parts) = p ++ (parts.map ('.' :: ·)).flatten := by
  induction parts generalizing p with
  | nil => simp
  | cons q parts ih => rw [List.intercalate_cons_cons, ih, List.map_cons, List.flatten_cons]; simp

section
variable {s : Syntax} {P : List Char → Prop} (h : Means (Tree.ofSyntax plainFlags s) fun _ cs _ => P cs)
include h

theorem means_dotted : Means (Tree.ofSyntax plainFlags (dottedSyntax s)) fun _ cs _ => Dotted P cs := by
  have hmore : Means (Tree.ofSyntax plainFlags (.group [] (.concat [single '.', s]))) fun _ cs _ =>
      ∃ p, P p ∧ cs = '.' :: p := by
    refine (means_single_parts '.' (Means.parts h Means.noParts)).concat.group.congr fun _ cs _ => ?_
    constructor
    · rintro ⟨_, rfl, p, _, rfl, hp, rfl⟩
      exact ⟨p, hp, by simp⟩
    · rintro ⟨p, hp, rfl⟩
      exact ⟨p, rfl, p, [], by simp, hp, rfl⟩
  have hparts := Means.parts h (Means.parts (hmore.repeated 0 none) Means.noParts)
  refine hparts.concat.group.congr fun _ cs _ => ?_
  constructor
  -- Every part that is repeated has its dot in front.
  · rintro ⟨p, _, rfl, hp, _, _, rfl, ⟨_, -, parts, -, hparts, rfl⟩, rfl⟩
    have hdots : (parts.map List.tail).map ('.' :: ·) = parts := by
      rw [List.map_map]
      refine (List.map_congr_left fun q hq => ?_).trans (List.map_id parts)
      obtain ⟨_, -, rfl⟩ := hparts q hq
      rfl
    refine ⟨p :: parts.map List.tail, List.cons_ne_nil _ _, List.forall_mem_cons.2 ⟨hp, ?_⟩, ?_⟩
    · rw [List.forall_mem_map]
      intro q hq
      obtain ⟨_, hp, rfl⟩ := hparts q hq
      exact hp
    · rw [intercalate_cons, hdots, List.append_nil]
  · rintro ⟨parts, hne, hparts, rfl⟩
    obtain ⟨p, parts, rfl⟩ := List.exists_cons_of_ne_nil hne
    obtain ⟨hp, hparts⟩ := List.forall_mem_cons.1 hparts
    refine ⟨p, _, intercalate_cons p parts, hp, _, [], (List.append_nil _).symm,
      ⟨parts.length, nofun, parts.map ('.' :: ·), by simp, ?_, rfl⟩, rfl⟩
    rw [List.forall_mem_map]
    exact fun q hq => ⟨q, hparts q hq, rfl⟩

theorem means_marked (mark : Char) : Means (Tree.ofSyntax plainFlags (markedSyntax mark s)) fun _ cs _ =>
    ∃ rest : Option (List Char), (∀ p ∈ rest, Dotted P p) ∧ cs = after mark rest := by
  have hgroup := (means_single_parts mark (Means.parts (means_dotted h) Means.noParts)).concat.group
  refine (hgroup.repeated 0 (some 1)).congr fun _ cs _ => ?_
  constructor
  · rintro ⟨more, hmore, parts, hlength, hparts, rfl⟩
    have hle := hmore 1 rfl
    obtain _ | ⟨part, _ | ⟨_, _⟩⟩ := parts
    · exact ⟨none, by simp, rfl⟩
    · obtain ⟨_, rfl, p, _, rfl, hp, rfl⟩ := hparts part List.mem_cons_self
      exact ⟨some p, fun q hq => Option.some.inj hq ▸ hp, by simp [after]⟩
    · simp only [List.length_cons] at hlength
      omega
  · rintro ⟨rest, hrest, rfl⟩
    cases rest with
    | none => exact ⟨0, by simp, [], rfl, by simp, rfl⟩
    | some p =>
      refine ⟨1, by simp, [mark :: p], rfl, List.forall_mem_singleton.2 ?_, by simp [after]⟩
      exact ⟨p, rfl, p, [], by simp, hrest p rfl, rfl⟩

end

/-- The pattern takes nothing but whole texts. -/
theorem means_pattern : Means (Tree.ofSyntax plainFlags patternSyntax) fun before cs after =>
    before = [] ∧ after = [] ∧ ∃ p, Grammar.decimal.Derives cs p := by
  have hmarks := Means.parts (means_marked means_ident '-')
    (Means.parts (means_marked means_build '+') Means.endLine)
  have hnumbers := Means.parts means_number (means_single_parts '.' (Means.parts means_number
    (means_single_parts '.' (Means.parts means_number hmarks))))
  refine hnumbers.startLine.concat.congr fun before cs after => ?_
  constructor
  · rintro ⟨rfl, major, _, rfl, hmajor, _, rfl, minor, _, rfl, hminor, _, rfl, patch, _, rfl, hpatch,
      _, _, rfl, ⟨prerelease, hprerelease, rfl⟩, _, _, rfl, ⟨build, hbuild, rfl⟩, rfl, rfl⟩
    exact ⟨rfl, rfl, prerelease, major, minor, patch, build, hmajor, hminor, hpatch, hprerelease, hbuild,
      by simp⟩
  · rintro ⟨rfl, rfl, prerelease, major, minor, patch, build, hmajor, hminor, hpatch, hprerelease, hbuild,
      rfl⟩
    have hcs : ['.'].intercalate [major, minor, patch] ++ after '-' prerelease ++ after '+' build =
        major ++ '.' :: (minor ++ '.' :: (patch ++ (after '-' prerelease ++ (after '+' build ++ [])))) := by
      simp
    exact ⟨rfl, major, _, hcs, hmajor, _, rfl, minor, _, rfl, hminor, _, rfl, patch, _, rfl, hpatch,
      _, _, rfl, ⟨prerelease, hprerelease, rfl⟩, _, [], rfl, ⟨build, hbuild, rfl⟩, rfl, rfl⟩

/-- The regex of the pattern, if it is not too large, matches the texts that are read as versions. -/
theorem isMatch_pattern :
    ∃ t, Regex.compile pattern "" = (if t.size ≤ Regex.maxSize then .ok ⟨pattern, t⟩ else .error .tooLarge) ∧
      ∀ text : String, (⟨pattern, t⟩ : Regex).isMatch text = (Version.ofChars? text.toList).isSome := by
  obtain ⟨t, ht, htakes⟩ := means_pattern
  refine ⟨t, Regex.compile_plain ofText_pattern ht, fun text => ?_⟩
  have hmatch : (⟨pattern, t⟩ : Regex).isMatch text = true ↔ ∃ p, Grammar.decimal.Derives text.toList p := by
    rw [Regex.isMatch_iff]
    simp only [htakes]
    constructor
    · rintro ⟨_, cs, _, htext, rfl, rfl, h⟩
      rwa [htext, List.nil_append, List.append_nil]
    · exact fun h => ⟨[], text.toList, [], by simp, rfl, rfl, h⟩
  rw [Bool.eq_iff_iff, hmatch, Option.isSome_iff_exists]
  constructor
  · rintro ⟨p, h⟩
    obtain ⟨v, hv, -⟩ := ofChars_of_derives h
    exact ⟨v, hv⟩
  · rintro ⟨v, hv⟩
    exact ⟨_, derives_of_ofChars hv⟩

end Rulebook.Semver
