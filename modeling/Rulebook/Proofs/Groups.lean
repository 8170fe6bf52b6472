import Rulebook.Proofs.Relocation

/-!
# Lambda groups end

Lambdas may build rules with lambdas that build more. But each group that a walk enters is one deeper
than the last, and at a fixed depth the walk fails. So what a walk finds is the one solution of the
equations of its groups: the bound on the groups still to be entered, by which the walk is defined, has
no part in it.
-/

namespace Rulebook

section
variable {groups groups' : GroupWalk}

/-- What is not a lambda group is done alike if everything that it asks for is. -/
theorem Visit.walk_congr {v : Visit} (hjob : ∀ kind l, v.job ≠ .group kind l)
    (h : ∀ w, Asks groups v w → w.walk groups' = w.walk groups) : v.walk groups' = v.walk groups := by
  obtain ⟨job, c⟩ := v
  by_cases hown : job.Own
  -- Below no path and with no more groups around it, a place is the same place.
  · have hmoved := Job.walk_moved (p := []) (n := 0) hown fun w hasks =>
      (h w hasks).trans (Walk.under_nil _).symm
    exact hmoved.trans (Walk.under_nil _)
  cases job with
  | validate rule | accepts rule | present rule =>
    cases rule with
    | host => rfl
    | _ => exact absurd trivial hown
  | group kind l => exact absurd rfl (hjob kind l)
  | build kind l =>
    simp only [Visit.walk, Job.walk, builtWalk]
    cases hrules : l.rules Registry.standard.contains kind c.enterGroup with
    | error e => rfl
    | ok rules => exact h _ (.built hrules)
  | _ => exact absurd trivial hown

/-- There is at most one way to walk lambda groups as their rules. -/
theorem Unrolls.walk_eq (h : Unrolls .standard groups) (h' : Unrolls .standard groups') (v : Visit) :
    v.walk groups' = v.walk groups := by
  induction v using (wellFounded_asks groups).induction with
  | _ v ih =>
    obtain ⟨job, c⟩ := v
    cases job with
    | group kind l =>
      simp only [Visit.walk, Job.walk]
      rw [h, h']
      split
      · rfl
      · exact ih ⟨.build kind l, c⟩ (.enter (by omega))
    | _ => exact Visit.walk_congr (by simp) ih

theorem Unrolls.eq (h : Unrolls .standard groups) (h' : Unrolls .standard groups') :
    groups' = groups := by
  funext kind l c
  exact h.walk_eq h' ⟨.group kind l, c⟩

end

/-! ## The bound on what is left -/

/-- Where lambda groups are walked alike from a depth on, so is everything. -/
theorem Visit.walk_eq_of_groups {groups groups' : GroupWalk} (depth : Nat)
    (hgroups : ∀ kind l c, depth ≤ c.groupDepth → groups' kind l c = groups kind l c) (v : Visit)
    (hv : depth ≤ v.depth) : v.walk groups' = v.walk groups := by
  induction v using (wellFounded_asks groups).induction with
  | _ v ih =>
    obtain ⟨job, c⟩ := v
    cases job with
    | group kind l => exact hgroups kind l c hv
    | _ =>
      refine walk_congr (by simp) fun w hasks => ih w hasks ?_
      rcases hasks.descends with ⟨hdepth, -⟩ | ⟨hdepth, -⟩ <;> omega

theorem groupWalk_succ (r : Registry) (left : Nat) (kind : String) (l : Lambda) (c : Context) :
    groupWalk r (left + 1) kind l c =
      if maxGroups ≤ c.groupDepth then .fail groupsTooDeep
      else builtWalk r (groupWalk r left) kind l c := rfl

/-- Where enough is left for the groups that may still be entered, more makes no difference. -/
theorem groupWalk_succ_eq {left : Nat} {kind : String} {l : Lambda} {c : Context}
    (hleft : maxGroups ≤ left + c.groupDepth) :
    groupWalk .standard (left + 1) kind l c = groupWalk .standard left kind l c := by
  induction left generalizing kind l c with
  | zero =>
    rw [groupWalk_succ, if_pos (by omega)]
    rfl
  | succ left ih =>
    rw [groupWalk_succ, groupWalk_succ]
    split
    · rfl
    · exact Visit.walk_eq_of_groups (maxGroups - left)
        (fun kind l c hc => ih (by omega)) ⟨.build kind l, c⟩ (by simp only [Visit.depth]; omega)

theorem unrolls_groupWalk {left : Nat} (hleft : maxGroups ≤ left) :
    Unrolls .standard (groupWalk .standard left) := by
  intro kind l c
  obtain ⟨left, rfl⟩ : ∃ k, left = k + 1 := Nat.exists_eq_add_one.2 (Nat.lt_of_lt_of_le (by decide) hleft)
  rw [groupWalk_succ]
  split
  · rfl
  · exact (Visit.walk_eq_of_groups 1 (fun kind l c hc => groupWalk_succ_eq (by omega))
      ⟨.build kind l, c⟩ (by simp [Visit.depth])).symm

/-! ## Walks from the root -/

/-- How the standard registry walks lambda groups. -/
abbrev standardGroups : GroupWalk := groupWalk .standard maxGroups

theorem unrolls_standardGroups : Unrolls .standard standardGroups := unrolls_groupWalk (Nat.le_refl _)

/-- What the walk of a rule starts with. -/
def Visit.root (rule : Rule) (disk : Disk) (subject : Subject) : Visit :=
  ⟨.validate rule, .root disk subject⟩

theorem Reaches.report {rule : Rule} {disk : Disk} {subject : Subject} {v : Visit}
    (h : Reaches standardGroups (.root rule disk subject) v) {e : EngineError}
    (he : (v.walk standardGroups).ending = .failed e) :
    Registry.standard.validate rule disk subject = .failure Code.engineError e.message := by
  have hending : ((rule.check .standard).validate (.root disk subject)).ending = .failed e :=
    h.failed unrolls_standardGroups he
  unfold Registry.validate Walk.report
  rw [hending]

/-- The lambda groups that the walk of a rule comes to are bounded, in depth and in no other way. -/
structure Rule.GroupsBounded (rule : Rule) (disk : Disk) (subject : Subject) : Prop where
  /-- No visit asks without end, -/
  ends : WellFounded fun w v => Asks standardGroups v w
  /-- and what is done at one depends on nothing but what it asks for. -/
  determined : ∀ groups v, (∀ kind l, v.job ≠ .group kind l) →
    (∀ w, Asks standardGroups v w → w.walk groups = w.walk standardGroups) →
    v.walk groups = v.walk standardGroups
  /-- So there is one way to walk lambda groups as the rules that their lambdas build, -/
  unique : ∀ groups, Unrolls .standard groups ↔ groups = standardGroups
  /-- whatever number of groups is let through beyond those that may be entered. -/
  anyLeft : ∀ left, maxGroups ≤ left → groupWalk .standard left = standardGroups
  depth : ∀ v, Reaches standardGroups (.root rule disk subject) v →
    v.context.groupDepth ≤ maxGroups
  build : ∀ kind l c, Reaches standardGroups (.root rule disk subject)
    ⟨.build kind l, c⟩ → c.groupDepth < maxGroups
  tooDeep : ∀ kind l c, Reaches standardGroups (.root rule disk subject)
    ⟨.group kind l, c⟩ → c.groupDepth = maxGroups →
    Registry.standard.validate rule disk subject =
      .failure Code.engineError groupsTooDeep.message

/-- Whatever rules lambdas build on the way, a walk comes to an end that no bound but the depth of groups
decides, and a lambda group that is nested too deep is the one thing that is reported. -/
theorem groups_bounded (rule : Rule) (disk : Disk) (subject : Subject) :
    rule.GroupsBounded disk subject where
  ends := wellFounded_asks _
  determined _ _ := Visit.walk_congr
  unique groups := ⟨unrolls_standardGroups.eq, fun h => h ▸ unrolls_standardGroups⟩
  anyLeft left hleft := unrolls_standardGroups.eq (unrolls_groupWalk hleft)
  depth v h := Nat.le_trans v.groupDepth_le (h.depth_le (Nat.zero_le _))
  build kind l c h := h.depth_le (Nat.zero_le _)
  tooDeep kind l c h hdepth := by
    refine h.report ?_
    simp only [Visit.walk, Job.walk]
    rw [unrolls_standardGroups, if_pos (Nat.le_of_eq hdepth.symm)]
    rfl

/-! ## Groups in groups without end -/

/-- A package whose one rule is the package itself. -/
def growing : String := "let grow = (g) => (it) => [Package(g(g))]; Package(grow(grow))"

def growingBody : Expr :=
  .array ⟨26, 1, 27⟩ [.call ⟨34, 1, 35⟩ (.ident ⟨27, 1, 28⟩ "Package")
    [.call ⟨36, 1, 37⟩ (.ident ⟨35, 1, 36⟩ "g") [.ident ⟨37, 1, 38⟩ "g"]]]

/-- What `grow(grow)` is, and what `g(g)` is when it is called. -/
def growingLambda : Lambda :=
  .mk (some "it") growingBody
    [("g", .lambda (.mk (some "g") (.lambda ⟨18, 1, 19⟩ (some "it") growingBody) []))]

def growingPackage : Rule := .contains (.package none (.lazy "Package" growingLambda))

theorem load_growing : Registry.standard.load growing = .ok growingPackage := by
  with_unfolding_all rfl

theorem rules_growing (c : Context) :
    growingLambda.rules Registry.standard.contains "Package" c = .ok [growingPackage] := rfl

theorem growing_reaches {depth : Nat} (h : depth ≤ maxGroups) :
    Reaches standardGroups (.root growingPackage default (.value .null))
      ⟨.group "Package" growingLambda, ⟨default, [], .value .null, depth⟩⟩ := by
  induction depth with
  | zero => exact .single (.lazy rfl)
  | succ depth ih =>
    have hgroup := ih (Nat.le_of_succ_le h)
    have hbuild := hgroup.tail (.enter h)
    have heach := hbuild.tail (.built (rules_growing _))
    have hpackage := heach.tail (.each (.head ..))
    exact hpackage.tail (.lazy rfl)

theorem groups_bounded_growing :
    Registry.standard.load growing = .ok growingPackage ∧
      Registry.standard.validate growingPackage default (.value .null) =
        .failure Code.engineError groupsTooDeep.message := by
  have hbounded := groups_bounded growingPackage default (.value .null)
  exact ⟨load_growing, hbounded.tooDeep _ _ _ (growing_reaches (Nat.le_refl _)) rfl⟩

end Rulebook
