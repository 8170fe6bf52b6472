import Rulebook.Proofs.SharedLists
import Rulebook.Session.History

/-!
# What a history says of its session

Each context was derived from another or is a root, so it has a derivation, from which its path and its depth can
be read. Contexts share a list if their derivations meet and nothing opened a list behind the place where they do.
A list holds what was recorded by those who share it since one of them took it.
-/

namespace Rulebook

namespace Session

/-! ## Events -/

namespace Event

def makes : Event → Bool
  | .root .. => true
  | .on _ (.record ..) | .on _ .take => false
  | .on .. => true

def source? : Event → Option Nat
  | .root .. => none
  | .on id _ => some id

def opensList : Event → Bool
  | .root .. | .on _ .probe => true
  | _ => false

def makesRoot : Event → Bool
  | .root .. | .on _ (.root _) => true
  | _ => false

def segment? : Event → Option String
  | .on _ (.child segment _) => some segment
  | _ => none

def entersGroup : Event → Bool
  | .on _ .enterGroup => true
  | _ => false

def takes (shares : Nat → Bool) : Event → Bool
  | .on id .take => shares id
  | _ => false

def issue? (shares : Nat → Bool) (path : Nat → List String) : Event → Option Issue
  | .on id (.record level code message) => if shares id then some ⟨level, code, message, path id⟩ else none
  | _ => none

end Event

/-! ## Readings of a history -/

namespace History

def contexts (h : History) : Nat := h.countP Event.makes

/-- The events that led to a context, the last one first, each with the context that it made. -/
def derivation : History → Nat → List (Nat × Event)
  | [], _ => []
  | e :: h, i =>
    if e.makes ∧ i = contexts h then (i, e) :: e.source?.elim [] (derivation h) else derivation h i

def sinceRoot (h : History) (i : Nat) : List Event :=
  (((h.derivation i).map Prod.snd).takeWhile fun e => !e.makesRoot).reverse

def path (h : History) (i : Nat) : List String := (h.sinceRoot i).filterMap Event.segment?

def groupDepth (h : History) (i : Nat) : Nat := (h.sinceRoot i).countP Event.entersGroup

/-- The contexts of a derivation since a list was opened. -/
def sinceOpened : List (Nat × Event) → List Nat
  | [] => []
  | (k, e) :: before => if e.opensList then [k] else k :: sinceOpened before

/-- The derivations of two contexts meet, and none of the two opens a list behind that. -/
def Meet (h : History) (i j : Nat) : Prop :=
  ∃ k ∈ sinceOpened (h.derivation i), k ∈ sinceOpened (h.derivation j)

instance (h : History) (i j : Nat) : Decidable (h.Meet i j) :=
  inferInstanceAs (Decidable (∃ k ∈ sinceOpened (h.derivation i), k ∈ sinceOpened (h.derivation j)))

/-- What was recorded by some contexts since one of them took their list. -/
def recorded (h : History) (shares : Nat → Bool) (path : Nat → List String) : List Issue :=
  (h.takeWhile fun e => !e.takes shares).reverse.filterMap (Event.issue? shares path)

/-- What the list of a context holds. -/
def found (h : History) (i : Nat) : List Issue := h.recorded (h.Meet i ·) h.path

variable {h : History} {e : Event} {i j : Nat} {shares : Nat → Bool} {path : Nat → List String}

theorem Meet.symm (hmeet : h.Meet i j) : h.Meet j i := by
  obtain ⟨k, hi, hj⟩ := hmeet
  exact ⟨k, hj, hi⟩

/-! ## One more event -/

theorem contexts_cons : contexts (e :: h) = contexts h + if e.makes then 1 else 0 := List.countP_cons

theorem derivation_new (he : e.makes = true) :
    derivation (e :: h) h.contexts = (h.contexts, e) :: e.source?.elim [] h.derivation := by
  rw [derivation, if_pos ⟨he, rfl⟩]

theorem derivation_old (hi : e.makes = true → i ≠ h.contexts) : derivation (e :: h) i = h.derivation i := by
  rw [derivation, if_neg]
  rintro ⟨he, hsame⟩
  exact hi he hsame

section
variable (hi : e.makes = true → i ≠ h.contexts)
include hi

theorem path_old : History.path (e :: h) i = h.path i := by
  rw [History.path, History.path, sinceRoot, sinceRoot, derivation_old hi]

theorem groupDepth_old : groupDepth (e :: h) i = h.groupDepth i := by
  rw [groupDepth, groupDepth, sinceRoot, sinceRoot, derivation_old hi]

theorem meet_old (hj : e.makes = true → j ≠ h.contexts) : Meet (e :: h) i j ↔ h.Meet i j := by
  rw [Meet, Meet, derivation_old hi, derivation_old hj]

end

theorem sinceRoot_root (he : e.makes = true) (hroot : e.makesRoot = true) :
    sinceRoot (e :: h) h.contexts = [] := by
  rw [sinceRoot, derivation_new he, List.map_cons, List.takeWhile_cons_of_neg (by simp [hroot])]
  rfl

theorem sinceRoot_derived (he : e.makes = true) (hroot : e.makesRoot = false) {k : Nat}
    (hsource : e.source? = some k) : sinceRoot (e :: h) h.contexts = h.sinceRoot k ++ [e] := by
  rw [sinceRoot, derivation_new he, hsource, List.map_cons, List.takeWhile_cons_of_pos (by simp [hroot]),
    List.reverse_cons]
  rfl

theorem place_root (he : e.makes = true) (hroot : e.makesRoot = true) :
    History.path (e :: h) h.contexts = [] ∧ groupDepth (e :: h) h.contexts = 0 := by
  rw [History.path, groupDepth, sinceRoot_root he hroot]
  exact ⟨rfl, rfl⟩

theorem place_derived (he : e.makes = true) (hroot : e.makesRoot = false) {k : Nat} (hsource : e.source? = some k) :
    History.path (e :: h) h.contexts = e.segment?.elim (h.path k) (h.path k ++ [·]) ∧
      groupDepth (e :: h) h.contexts = h.groupDepth k + if e.entersGroup then 1 else 0 := by
  rw [History.path, groupDepth, sinceRoot_derived he hroot hsource, List.filterMap_append, List.countP_append]
  refine ⟨?_, ?_⟩
  · cases hsegment : e.segment? <;> simp [History.path, hsegment]
  · rw [List.countP_singleton]
    rfl

/-! ## Events of contexts that are there -/

/-- Every event is about a context that was there. -/
def Refers : History → Prop
  | [] => True
  | e :: h => (∀ k ∈ e.source?, k < contexts h) ∧ Refers h

theorem contexts_le_cons : contexts h ≤ contexts (e :: h) := by
  rw [contexts_cons]
  exact Nat.le_add_right ..

theorem derivation_lt (hrefers : h.Refers) : ∀ m ∈ h.derivation i, m.1 < h.contexts := by
  induction h generalizing i with
  | nil => exact nofun
  | cons e h ih =>
    have hle : contexts h ≤ contexts (e :: h) := contexts_le_cons
    intro m hm
    by_cases hnew : e.makes = true ∧ i = contexts h
    · obtain ⟨he, rfl⟩ := hnew
      rw [derivation_new he, List.mem_cons] at hm
      rw [contexts_cons, if_pos he]
      obtain rfl | hm := hm
      · exact Nat.lt_succ_self _
      · cases hsource : e.source? with
        | none =>
          rw [hsource] at hm
          cases hm
        | some k =>
          rw [hsource] at hm
          exact Nat.lt_succ_of_lt (ih hrefers.2 m hm)
    · rw [derivation_old fun he hi => hnew ⟨he, hi⟩] at hm
      exact Nat.lt_of_lt_of_le (ih hrefers.2 m hm) hle

theorem sinceOpened_lt (hrefers : h.Refers) : ∀ k ∈ sinceOpened (h.derivation i), k < h.contexts := by
  have hmem : ∀ d : List (Nat × Event), ∀ k ∈ sinceOpened d, ∃ m ∈ d, m.1 = k := by
    intro d
    induction d with
    | nil => exact nofun
    | cons m d ih =>
      intro k hk
      rw [sinceOpened] at hk
      split at hk
      · exact ⟨m, List.mem_cons_self, (List.mem_singleton.1 hk).symm⟩
      · obtain rfl | hk := List.mem_cons.1 hk
        · exact ⟨m, List.mem_cons_self, rfl⟩
        · obtain ⟨m', hm', rfl⟩ := ih k hk
          exact ⟨m', List.mem_cons_of_mem m hm', rfl⟩
  intro k hk
  obtain ⟨m, hm, rfl⟩ := hmem _ k hk
  exact derivation_lt hrefers m hm

theorem mem_sinceOpened_self (hi : i < h.contexts) : i ∈ sinceOpened (h.derivation i) := by
  induction h with
  | nil => exact absurd hi (Nat.not_lt_zero i)
  | cons e h ih =>
    by_cases hnew : e.makes = true ∧ i = contexts h
    · obtain ⟨he, rfl⟩ := hnew
      rw [derivation_new he, sinceOpened]
      split <;> simp
    · rw [derivation_old fun he hi => hnew ⟨he, hi⟩]
      refine ih ?_
      rw [contexts_cons] at hi
      split at hi
      · rename_i he
        have hne : i ≠ contexts h := fun hi => hnew ⟨he, hi⟩
        omega
      · exact hi

theorem meet_self (hi : i < h.contexts) : h.Meet i i := ⟨i, mem_sinceOpened_self hi, mem_sinceOpened_self hi⟩

/-- A new context that records into the list of another meets those that this one meets. -/
theorem meet_derived (hrefers : h.Refers) (he : e.makes = true) (hopens : e.opensList = false) {k : Nat}
    (hsource : e.source? = some k) (hj : j < h.contexts) : Meet (e :: h) h.contexts j ↔ h.Meet k j := by
  rw [Meet, Meet, derivation_new he, derivation_old fun _ => Nat.ne_of_lt hj, hsource, sinceOpened,
    if_neg (by simp [hopens])]
  constructor
  · rintro ⟨m, hm, hjm⟩
    obtain rfl | hm := List.mem_cons.1 hm
    · exact absurd (sinceOpened_lt hrefers _ hjm) (Nat.lt_irrefl _)
    · exact ⟨m, hm, hjm⟩
  · rintro ⟨m, hm, hjm⟩
    exact ⟨m, List.mem_cons_of_mem _ hm, hjm⟩

/-- A new context that opens a list meets no other. -/
theorem not_meet_opened (hrefers : h.Refers) (he : e.makes = true) (hopens : e.opensList = true)
    (hj : j < h.contexts) : ¬ Meet (e :: h) h.contexts j := by
  rw [Meet, derivation_new he, derivation_old fun _ => Nat.ne_of_lt hj, sinceOpened, if_pos hopens]
  rintro ⟨m, hm, hjm⟩
  obtain rfl := List.mem_singleton.1 hm
  exact absurd (sinceOpened_lt hrefers _ hjm) (Nat.lt_irrefl _)

/-! ## What is recorded -/

theorem recorded_cons : recorded (e :: h) shares path =
    if e.takes shares then [] else h.recorded shares path ++ (e.issue? shares path).toList := by
  rw [recorded, List.takeWhile_cons]
  cases e.takes shares with
  | true => rfl
  | false => cases hissue : e.issue? shares path <;> simp [recorded, hissue]

theorem recorded_cons_makes (he : e.makes = true) : recorded (e :: h) shares path = h.recorded shares path := by
  have hquiet : e.takes shares = false ∧ e.issue? shares path = none := by
    cases e with
    | root => exact ⟨rfl, rfl⟩
    | on k step => cases step <;> first | exact ⟨rfl, rfl⟩ | cases he
  rw [recorded_cons, hquiet.1, hquiet.2]
  simp

theorem recorded_congr (hrefers : h.Refers) {shares' : Nat → Bool} {path' : Nat → List String}
    (hshares : ∀ k < h.contexts, shares' k = shares k) (hpath : ∀ k < h.contexts, path' k = path k) :
    h.recorded shares' path' = h.recorded shares path := by
  induction h with
  | nil => rfl
  | cons e h ih =>
    have hle : contexts h ≤ contexts (e :: h) := contexts_le_cons
    have hsame : e.takes shares' = e.takes shares ∧ e.issue? shares' path' = e.issue? shares path := by
      cases e with
      | root => exact ⟨rfl, rfl⟩
      | on k step =>
        have hk : k < contexts (.on k step :: h) := Nat.lt_of_lt_of_le (hrefers.1 k rfl) hle
        cases step <;> simp [Event.takes, Event.issue?, hshares k hk, hpath k hk]
    rw [recorded_cons, recorded_cons, hsame.1, hsame.2, ih hrefers.2]
    · exact fun k hk => hshares k (Nat.lt_of_lt_of_le hk hle)
    · exact fun k hk => hpath k (Nat.lt_of_lt_of_le hk hle)

theorem found_cons (he : e.makes = false) : found (e :: h) i =
    if e.takes (h.Meet i ·) then [] else h.found i ++ (e.issue? (h.Meet i ·) h.path).toList := by
  have hmeet : (fun j => decide (Meet (e :: h) i j)) = fun j => decide (h.Meet i j) := by
    funext j
    simp [meet_old (h := h) (e := e) (i := i) (j := j), he]
  have hpath : History.path (e :: h) = h.path := funext fun j => path_old (by simp [he])
  rw [found, hmeet, hpath, recorded_cons]
  rfl

theorem recorded_of_none (h : History) (path : Nat → List String) : h.recorded (fun _ => false) path = [] := by
  induction h with
  | nil => rfl
  | cons e h ih =>
    have hquiet : e.issue? (fun _ => false) path = none := by
      unfold Event.issue?
      split <;> rfl
    rw [recorded_cons, ih, hquiet]
    simp

end History

/-! ## Sessions of histories -/

/-- The session is as the history says. -/
structure Tells (h : History) (s : Session) : Prop where
  refers : h.Refers
  valid : s.Valid
  length : s.scenes.length = h.contexts
  place : ∀ {i x}, s.scene? i = some x → x.context.path = h.path i ∧ x.context.groupDepth = h.groupDepth i
  shares : ∀ {i j x y}, s.scene? i = some x → s.scene? j = some y → (x.list = y.list ↔ h.Meet i j)
  found : ∀ {i x}, s.scene? i = some x → s.issues x = h.found i

theorem scene?_append {s : Session} {x y : Scene} {lists : List (List Issue)} {i : Nat} :
    scene? ⟨s.scenes ++ [x], lists⟩ i = some y ↔ s.scene? i = some y ∨ i = s.scenes.length ∧ y = x := by
  rw [scene?, scene?]
  rcases Nat.lt_trichotomy i s.scenes.length with hi | rfl | hi
  · rw [List.getElem?_append_left hi]
    simp [Nat.ne_of_lt hi]
  · simp [eq_comm]
  · rw [List.getElem?_eq_none (by simp; omega), List.getElem?_eq_none (by omega)]
    simp [Nat.ne_of_gt hi]

theorem tells_empty : Tells [] .empty where
  refers := trivial
  valid := nofun
  length := rfl
  place := nofun
  shares := nofun
  found := nofun

section
variable {h : History} {s : Session} {e : Event} {x y : Scene} {k : Nat}

theorem Tells.lt (hs : Tells h s) {i : Nat} (hi : s.scene? i = some x) : i < h.contexts := by
  rw [← hs.length]
  exact (List.getElem?_eq_some_iff.1 hi).1

theorem Tells.list_lt (hs : Tells h s) {i : Nat} (hi : s.scene? i = some x) : x.list < s.lists.length :=
  hs.valid x (List.mem_of_getElem? hi)

/-- What is there stays as it is when a context is made. -/
theorem Tells.make (hs : Tells h s) (he : e.makes = true) (hrefers : ∀ k ∈ e.source?, k < h.contexts)
    {new : List (List Issue)} (hy : y.list < (s.lists ++ new).length)
    (hplace : History.path (e :: h) h.contexts = y.context.path ∧
      History.groupDepth (e :: h) h.contexts = y.context.groupDepth)
    (hshares : ∀ {j z}, s.scene? j = some z → (y.list = z.list ↔ History.Meet (e :: h) h.contexts j))
    (hfound : (s.lists ++ new)[y.list]?.getD [] = History.found (e :: h) h.contexts) :
    Tells (e :: h) ⟨s.scenes ++ [y], s.lists ++ new⟩ := by
  have hold : ∀ {i x}, s.scene? i = some x → e.makes = true → i ≠ h.contexts := fun hi _ => Nat.ne_of_lt (hs.lt hi)
  have hcontexts : History.contexts (e :: h) = h.contexts + 1 := by rw [History.contexts_cons, if_pos he]
  -- A context was there, and what is said of it was said before, or it is the new one.
  refine
    { refers := ⟨hrefers, hs.refers⟩
      valid := ?valid
      length := by rw [hcontexts, ← hs.length]; exact List.length_append
      place := ?place
      shares := ?shares
      found := ?found }
  case valid =>
    intro z hz
    obtain hz | hz := List.mem_append.1 hz
    · exact Nat.lt_of_lt_of_le (hs.valid z hz) (by simp)
    · rwa [List.mem_singleton.1 hz]
  case place =>
    intro i z hz
    rw [scene?_append] at hz
    obtain hz | ⟨rfl, rfl⟩ := hz
    · rw [History.path_old (hold hz), History.groupDepth_old (hold hz)]
      exact hs.place hz
    · rw [hs.length]
      exact ⟨hplace.1.symm, hplace.2.symm⟩
  case shares =>
    intro i j x z hx hz
    rw [scene?_append] at hx hz
    obtain hx | ⟨rfl, rfl⟩ := hx
    · obtain hz | ⟨rfl, rfl⟩ := hz
      · rw [History.meet_old (hold hx) (hold hz)]
        exact hs.shares hx hz
      · rw [hs.length, eq_comm, hshares hx]
        exact ⟨.symm, .symm⟩
    · obtain hz | ⟨rfl, rfl⟩ := hz
      · rw [hs.length]
        exact hshares hz
      · rw [hs.length]
        exact iff_of_true rfl (History.meet_self (by omega))
  case found =>
    intro i z hz
    rw [scene?_append] at hz
    obtain hz | ⟨rfl, rfl⟩ := hz
    · have hlist : (s.lists ++ new)[z.list]? = s.lists[z.list]? := List.getElem?_append_left (hs.list_lt hz)
      rw [issues, hlist, History.found, History.recorded_cons_makes he]
      refine (hs.found hz).trans (History.recorded_congr hs.refers ?_ ?_).symm
      · intro j hj
        simp [History.meet_old (hold hz) fun _ => Nat.ne_of_lt hj]
      · exact fun j hj => History.path_old fun _ => Nat.ne_of_lt hj
    · rw [hs.length]
      exact hfound

theorem Tells.derive (hs : Tells h s) (hk : s.scene? k = some x) (he : e.makes = true)
    (hopens : e.opensList = false) (hsource : e.source? = some k) (hlist : y.list = x.list)
    (hplace : History.path (e :: h) h.contexts = y.context.path ∧
      History.groupDepth (e :: h) h.contexts = y.context.groupDepth) :
    Tells (e :: h) (s.addScene y) := by
  have hmeet : ∀ {j}, j < h.contexts → (History.Meet (e :: h) h.contexts j ↔ h.Meet k j) :=
    History.meet_derived hs.refers he hopens hsource
  have hmade : Tells (e :: h) ⟨s.scenes ++ [y], s.lists ++ []⟩ := by
    refine hs.make he ?_ ?_ hplace ?_ ?_
    · rw [hsource]
      rintro _ ⟨⟩
      exact hs.lt hk
    · rw [hlist, List.append_nil]
      exact hs.list_lt hk
    · intro j z hz
      rw [hlist, hmeet (hs.lt hz)]
      exact hs.shares hk hz
    · rw [hlist, List.append_nil, History.found, History.recorded_cons_makes he]
      refine (hs.found hk).trans (History.recorded_congr hs.refers ?_ ?_).symm
      · intro j hj
        simp [hmeet hj]
      · exact fun j hj => History.path_old fun _ => Nat.ne_of_lt hj
  rwa [List.append_nil] at hmade

theorem Tells.open (hs : Tells h s) (he : e.makes = true) (hopens : e.opensList = true)
    (hsource : ∀ k ∈ e.source?, k < h.contexts) (hlist : y.list = s.lists.length)
    (hplace : History.path (e :: h) h.contexts = y.context.path ∧
      History.groupDepth (e :: h) h.contexts = y.context.groupDepth) :
    Tells (e :: h) ⟨s.scenes ++ [y], s.lists ++ [[]]⟩ := by
  have hmeet : ∀ {j}, j < h.contexts → ¬ History.Meet (e :: h) h.contexts j :=
    History.not_meet_opened hs.refers he hopens
  refine hs.make he hsource ?_ hplace ?_ ?_
  · simp [hlist]
  · intro j z hz
    rw [hlist]
    exact iff_of_false (Nat.ne_of_gt (hs.list_lt hz)) (hmeet (hs.lt hz))
  · rw [hlist, History.found, History.recorded_cons_makes he]
    have hnone : h.recorded (History.Meet (e :: h) h.contexts ·) (History.path (e :: h)) = [] := by
      rw [← h.recorded_of_none h.path]
      refine History.recorded_congr hs.refers ?_ ?_
      · intro j hj
        simp [hmeet hj]
      · exact fun j hj => History.path_old fun _ => Nat.ne_of_lt hj
    simp [hnone]

/-- What is there stays where it is when something is done with a list. -/
theorem Tells.setList (hs : Tells h s) (hk : s.scene? k = some x) (he : e.makes = false)
    (hsource : e.source? = some k) {content : List Issue}
    (hcontent : ∀ {i}, h.Meet i k → h.found i = s.issues x → History.found (e :: h) i = content)
    (hothers : ∀ {i}, ¬ h.Meet i k → History.found (e :: h) i = h.found i) :
    Tells (e :: h) (s.setList x.list content) := by
  have hold : ∀ i, e.makes = true → i ≠ h.contexts := by simp [he]
  have hlist := hs.list_lt hk
  refine ⟨⟨?_, hs.refers⟩, ?_, ?_, ?_, ?_, ?_⟩
  · rw [hsource]
    rintro _ ⟨⟩
    exact hs.lt hk
  · intro z hz
    simpa [Session.setList] using hs.valid z hz
  · rw [History.contexts_cons, if_neg (by simp [he])]
    exact hs.length
  · intro i z hz
    rw [History.path_old (hold i), History.groupDepth_old (hold i)]
    exact hs.place hz
  · intro i j y z hy hz
    rw [History.meet_old (hold i) (hold j)]
    exact hs.shares hy hz
  · intro i z hz
    have hshares := hs.shares hz hk
    by_cases hsame : z.list = x.list
    · have hown : h.found i = s.issues x := by
        rw [← hs.found hz, issues, hsame, issues]
      rw [hcontent (hshares.1 hsame) hown]
      simp [Session.setList, issues, hsame, hlist]
    · rw [hothers fun hmeet => hsame (hshares.2 hmeet), ← hs.found hz]
      simp [Session.setList, issues, Ne.symm hsame]

theorem Tells.record (hs : Tells h s) (hk : s.scene? k = some x) (level : Level) (code message : String) :
    Tells (.on k (.record level code message) :: h) (s.step x (.record level code message)) := by
  refine hs.setList hk rfl rfl ?_ ?_
  · intro i hmeet hown
    rw [History.found_cons rfl, hown, (hs.place hk).1]
    simp [Event.takes, Event.issue?, hmeet]
  · intro i hmeet
    rw [History.found_cons rfl]
    simp [Event.takes, Event.issue?, hmeet]

theorem Tells.take (hs : Tells h s) (hk : s.scene? k = some x) : Tells (.on k .take :: h) (s.step x .take) := by
  refine hs.setList hk rfl rfl ?_ ?_
  · intro i hmeet _
    rw [History.found_cons rfl]
    simp [Event.takes, hmeet]
  · intro i hmeet
    rw [History.found_cons rfl]
    simp [Event.takes, Event.issue?, hmeet]

theorem Tells.after {t : Session} (hs : Tells h s) (ht : s.after? e = some t) : Tells (e :: h) t := by
  cases e with
  | root disk subject =>
    cases ht
    exact hs.open rfl rfl nofun rfl (History.place_root rfl rfl)
  | on k step =>
    obtain ⟨x, hx, rfl⟩ := Option.map_eq_some_iff.1 ht
    obtain ⟨hpath, hdepth⟩ := hs.place hx
    have hderived := History.place_derived (h := h) (e := .on k step) (k := k)
    rw [← hpath, ← hdepth] at hderived
    cases step with
    | child | withSubject | enterGroup => exact hs.derive hx rfl rfl rfl rfl (hderived rfl rfl rfl)
    | root subject => exact hs.derive hx rfl rfl rfl rfl (History.place_root rfl rfl)
    | probe =>
      refine hs.open rfl rfl ?_ rfl (hderived rfl rfl rfl)
      rintro _ ⟨⟩
      exact hs.lt hx
    | record level code message => exact hs.record hx level code message
    | take => exact hs.take hx

end

theorem tells_of_refers {h : History} (hrefers : h.Refers) : ∃ s, h.session? = some s ∧ Tells h s := by
  induction h with
  | nil => exact ⟨.empty, rfl, tells_empty⟩
  | cons e h ih =>
    obtain ⟨s, hs, htells⟩ := ih hrefers.2
    obtain ⟨t, ht⟩ : ∃ t, s.after? e = some t := by
      cases e with
      | root disk subject => exact ⟨_, rfl⟩
      | on k step =>
        have hk : k < s.scenes.length := by
          rw [htells.length]
          exact hrefers.1 k rfl
        exact ⟨_, Option.map_eq_some_iff.2 ⟨_, List.getElem?_eq_getElem hk, rfl⟩⟩
    exact ⟨t, by rw [History.session?, hs, Option.bind_some, ht], htells.after ht⟩

/-- A history whose events are about contexts that were there has a session. In it two contexts share a list just
if their derivations meet with no list opened behind that; the list holds what those who share it have recorded
since one of them took it, in order, each issue under the path of its own recorder; and the path and the depth of a
context are the segments and the groups since the last root on its derivation. -/
theorem refers_tells {h : History} (hrefers : h.Refers) :
    ∃ s, h.session? = some s ∧ s.scenes.length = h.contexts ∧ ∀ i x, s.scene? i = some x →
      x.context.path = h.path i ∧ x.context.groupDepth = h.groupDepth i ∧
      (∀ j y, s.scene? j = some y → (x.list = y.list ↔ h.Meet i j)) ∧
      s.issues x = h.found i ∧ (isClean (s.issues x) = true ↔ ∀ issue ∈ h.found i, issue.level ≠ .error) := by
  obtain ⟨s, hs, htells⟩ := tells_of_refers hrefers
  refine ⟨s, hs, htells.length, fun i x hi => ?_⟩
  obtain ⟨hpath, hdepth⟩ := htells.place hi
  have hfound := htells.found hi
  refine ⟨hpath, hdepth, fun j y hj => htells.shares hi hj, hfound, ?_⟩
  rw [hfound]
  simp [isClean, Issue.isError]

/-- A list that is taken through its root while a group below and a probe are recorded into. -/
def takenHistory : History := [
  .on 4 (.record .warning "W" "last"),
  .on 0 .take,
  .on 2 (.record .error "E" "private"),
  .on 3 (.record .error "E" "first"),
  .on 3 (.root (.value .null)),
  .on 1 .enterGroup,
  .on 1 .probe,
  .on 0 (.child "a" (.value .null)),
  .root default (.value .null)]

theorem refers_tells_taken :
    takenHistory.Refers ∧ ∃ s x y, takenHistory.session? = some s ∧ s.scene? 3 = some x ∧ s.scene? 2 = some y ∧
      x.context.path = ["a"] ∧ x.context.groupDepth = 1 ∧ s.issues x = [⟨.warning, "W", "last", []⟩] ∧
      x.list ≠ y.list ∧ s.issues y = [⟨.error, "E", "private", ["a"]⟩] := by
  have hrefers : takenHistory.Refers := by
    simp [takenHistory, History.Refers, Event.source?, History.contexts, Event.makes, List.countP_cons]
  obtain ⟨s, hs, hlength, htells⟩ := refers_tells hrefers
  have hcontexts : takenHistory.contexts = 5 := by decide
  obtain ⟨x, hx⟩ : ∃ x, s.scene? 3 = some x := ⟨_, List.getElem?_eq_getElem (by omega)⟩
  obtain ⟨y, hy⟩ : ∃ y, s.scene? 2 = some y := ⟨_, List.getElem?_eq_getElem (by omega)⟩
  obtain ⟨hpath, hdepth, hshares, hissues, -⟩ := htells 3 x hx
  obtain ⟨-, -, -, hprivate, -⟩ := htells 2 y hy
  refine ⟨hrefers, s, x, y, hs, hx, hy, ?_, ?_, ?_, ?_, ?_⟩
  · rw [hpath]
    decide
  · rw [hdepth]
    decide
  · rw [hissues]
    decide
  · rw [Ne, hshares 2 y hy]
    decide
  · rw [hprivate]
    decide

end Session

end Rulebook
