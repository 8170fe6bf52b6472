import Rulebook.Proofs.Acts
import Rulebook.Session

/-!
# Lists only grow where they should

What a walk adds to a list is what the check of its rule finds, which only the context decides. If hosts
keep to their context, then it is found at its place or below, and what a rule only accepts adds nothing.
-/

namespace Rulebook

/-! ## Sessions -/

namespace Session

/-- What was found was added to the list of a scene, and no other list has changed. -/
structure Adds (s : Session) (x : Scene) (found : List Issue) (t : Session) : Prop where
  own : t.issues x = s.issues x ++ found
  others : ∀ n < s.lists.length, n ≠ x.list → t.lists[n]? = s.lists[n]?

/-- No list has changed. -/
def Keeps (s t : Session) : Prop := ∀ n < s.lists.length, t.lists[n]? = s.lists[n]?

/-- The list of every context is there, as it is from the start on. -/
def Valid (s : Session) : Prop := ∀ x ∈ s.scenes, x.list < s.lists.length

theorem valid_start (disk : Disk) (subject : Subject) : (start disk subject).Valid := by
  simp [Valid, start]

theorem Valid.addScene {s : Session} (h : s.Valid) {x : Scene} (hx : x.list < s.lists.length) :
    (s.addScene x).Valid := by
  intro y hy
  rcases List.mem_append.1 hy with hy | hy
  · exact h y hy
  · rw [List.mem_singleton.1 hy]
    exact hx

theorem Valid.step {s : Session} (h : s.Valid) {x : Scene} (hx : x ∈ s.scenes) (what : Step) :
    (s.step x what).Valid := by
  have hlist := h x hx
  cases what with
  | child | withSubject | enterGroup | root => exact h.addScene hlist
  | probe =>
    intro y hy
    rcases List.mem_append.1 hy with hy | hy
    · have := h y hy
      simp [Session.step]
      omega
    · simp [List.mem_singleton.1 hy, Session.step]
  | record | take =>
    intro y hy
    simpa [Session.step, append, setList] using h y hy

theorem Valid.perform {α : Type} {s : Session} (h : s.Valid) {x : Scene} (hx : x ∈ s.scenes)
    {w : Walk α} {act : Act α} (hact : act.Records x.list w) : (s.perform act).1.Valid := by
  intro y hy
  exact Nat.lt_of_lt_of_le (h y hy) (hact s.lists (h x hx)).2.length

theorem Valid.walk {s : Session} (h : s.Valid) {x : Scene} (hx : x ∈ s.scenes) (r : Registry)
    (rule : Rule) :
    (s.validate x r rule).1.Valid ∧ (s.accepts x r rule).1.Valid ∧ (s.present x r rule).1.Valid := by
  have hfollows := follows_check (r := r) rule
  refine ⟨?_, ?_, ?_⟩
  · exact h.perform hx (hfollows.validate x)
  · exact h.perform hx (hfollows.accepts x)
  · exact h.perform hx (hfollows.present x)

end Session

theorem Grown.adds {s t : Session} {x : Scene} {found : List Issue}
    (h : Grown x.list found s.lists t.lists) (hx : x.list < s.lists.length) : s.Adds x found t := by
  refine ⟨?_, h.others⟩
  simp [Session.issues, h.here, List.getElem?_eq_getElem hx]

section
variable {r : Registry} (hr : r.Tidy)
include hr

/-- With tidy hosts, a walk adds to the list of its context what only the context decides, each issue at
its place or below, and ends as only the context decides; no other list changes. Asking whether a rule
accepts or is there changes no list, however it ends. -/
theorem walk_adds_to_own_list {rule : Rule} (hrule : rule.Tidy) (c : Context) :
    (∃ found ending, (∀ i ∈ found, c.path <+: i.path) ∧
      ∀ (s : Session) (x : Scene), x.context = c → x.list < s.lists.length →
        (s.validate x r rule).2 = ending ∧ s.Adds x found (s.validate x r rule).1) ∧
    (∃ ending, ∀ (s : Session) (x : Scene), x.context = c → x.list < s.lists.length →
      (s.accepts x r rule).2 = ending ∧ s.Keeps (s.accepts x r rule).1) ∧
    ∃ ending, ∀ (s : Session) (x : Scene), x.context = c → x.list < s.lists.length →
      (s.present x r rule).2 = ending ∧ s.Keeps (s.present x r rule).1 := by
  have htidy := tidy_check hr hrule
  have hfollows := follows_check (r := r) rule
  refine ⟨⟨((rule.check r).validate c).issues, ((rule.check r).validate c).ending,
    htidy.validate c, ?_⟩, ⟨((rule.check r).accepts c).ending, ?_⟩,
    ((rule.check r).present c).ending, ?_⟩
  · rintro s x rfl hx
    obtain ⟨hending, hgrown⟩ := hfollows.validate x s.lists hx
    exact ⟨hending, hgrown.adds hx⟩
  -- A tidy check asks in silence, so nothing is there to be added.
  · rintro s x rfl hx
    obtain ⟨hending, hgrown⟩ := hfollows.accepts x s.lists hx
    rw [htidy.accepts] at hgrown
    exact ⟨hending, hgrown.unchanged⟩
  · rintro s x rfl hx
    obtain ⟨hending, hgrown⟩ := hfollows.present x s.lists hx
    rw [htidy.present] at hgrown
    exact ⟨hending, hgrown.unchanged⟩

end

/-- A validator that says where it was, and has nothing against anything. -/
def HostValidator.seen : HostValidator := .probing fun _ c => .warning c "SEEN" "seen"

theorem tidy_seen : (Registry.empty.register "Seen" (.host .seen)).Tidy := by
  intro kind v hv d
  obtain ⟨-, rfl⟩ : kind = "Seen" ∧ v = .seen := by
    simp only [Registry.validator?, Registry.register, Registry.lookup_putEntry] at hv
    grind [Registry.empty]
  refine ⟨fun c => ?_, fun c => Walk.issues_probe _, fun c => Walk.issues_probe _⟩
  simp [HostValidator.check, HostValidator.seen, HostValidator.probing, Walk.warning]

/-- The items of an array are no booleans, or else they are seen. -/
def seenRule : Rule := .listOf (.oneOf [.not .is .bool, .contains (.custom "Seen" .null)]) none none

/-- An array with a boolean, under a key. -/
def seenPlace : Context := (Context.root default (.value .null)).child "k" (.value (.array [.bool true]))

/-- The first option is probed and leaves nothing; the second is probed and then walked, so its note is added
once, whatever the list held. -/
theorem walk_adds_to_own_list_seen :
    (Registry.empty.register "Seen" (.host .seen)).Tidy ∧ seenRule.Tidy ∧
      ∀ (s : Session) (x : Scene), x.context = seenPlace → x.list < s.lists.length →
        (s.validate x (Registry.empty.register "Seen" (.host .seen)) seenRule).2 = .done () ∧
        s.Adds x [⟨.warning, "SEEN", "seen", ["k", "[0]"]⟩]
          (s.validate x (Registry.empty.register "Seen" (.host .seen)) seenRule).1 := by
  have hrule : seenRule.Tidy := by
    simp [seenRule, Rule.Tidy, Rule.In, rulesIn, Descriptor.In]
  obtain ⟨⟨found, ending, -, hall⟩, -⟩ := walk_adds_to_own_list tidy_seen hrule seenPlace
  -- What is added does not depend on the session, so one tells what it is.
  let s : Session := ⟨[⟨seenPlace, 0⟩], [[]]⟩
  obtain ⟨hending, hadds⟩ := hall s ⟨seenPlace, 0⟩ rfl (by decide)
  have hdone : (s.validate ⟨seenPlace, 0⟩ (Registry.empty.register "Seen" (.host .seen)) seenRule).2 =
      .done () := by
    decide +kernel
  have hissues : (s.validate ⟨seenPlace, 0⟩ (Registry.empty.register "Seen" (.host .seen))
      seenRule).1.issues ⟨seenPlace, 0⟩ = [⟨.warning, "SEEN", "seen", ["k", "[0]"]⟩] := by
    decide +kernel
  obtain rfl : ending = .done () := hending.symm.trans hdone
  obtain rfl : found = [⟨.warning, "SEEN", "seen", ["k", "[0]"]⟩] := hadds.own.symm.trans hissues
  exact ⟨tidy_seen, hrule, hall⟩

end Rulebook
