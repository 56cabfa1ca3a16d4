import DecisionTable.Proofs.Loop
import DecisionTable.Proofs.Tree.Height
import DecisionTable.Proofs.Tree.ShapeCheck

/-!
# Finding depths

The depth of a tree is the height of its root. It is found with a memo that keeps the heights of
branches by their ids, either by entering and leaving branches, or by a loop that looks at the
branch on top of a stack until those below it are known. A branch may wait on that stack several
times, but each time the loop looks at it for the first time its height is noted before long.
-/

namespace DecisionTable

open Relation

/-- What is known of the heights of branches. -/
abbrev Memo := List (String × Nat)

namespace Memo

/-- What is known is right, if the branches are those of a family. -/
def Sound (known : List Branch) (memo : Memo) : Prop :=
  ∀ entry ∈ memo, ∃ b ∈ known, entry = (b.id, b.node.height)

variable {known : List Branch} {memo : Memo} {b : Branch} {n : Node}

theorem isSome_lookup {id : String} : (memo.lookup id).isSome ↔ id ∈ memo.map (·.1) := by
  rw [List.lookup_isSome_iff, List.mem_map]
  constructor
  · rintro ⟨p, hp, heq⟩
    exact ⟨p, hp, (eq_of_beq heq).symm⟩
  · rintro ⟨p, hp, rfl⟩
    exact ⟨p, hp, beq_self_eq_true _⟩

theorem Sound.lookup_eq (h : Sound known memo) (hf : Branch.Family known) (hb : b ∈ known)
    (hid : b.id ∈ memo.map (·.1)) : memo.lookup b.id = some b.node.height := by
  obtain ⟨k, hk⟩ := Option.isSome_iff_exists.mp (isSome_lookup.mpr hid)
  obtain ⟨before, after, hsplit, _⟩ := List.lookup_eq_some_iff.mp hk
  obtain ⟨d, hd, hentry⟩ := h (b.id, k) (by simp [hsplit])
  obtain ⟨hsame, hheight⟩ := Prod.mk.inj hentry
  rw [hk, hheight, hf.unique b hb d hd hsame]

theorem Sound.cons (h : Sound known memo) (hb : b ∈ known) :
    Sound known ((b.id, b.node.height) :: memo) := by
  intro entry hentry
  rcases List.mem_cons.mp hentry with rfl | hbefore
  · exact ⟨b, hb, rfl⟩
  · exact h entry hbefore

theorem Sound.knownDepth_eq (h : Sound known memo) (hf : Branch.Family known) (hn : n.Within known)
    (hfound : ∀ b : Branch, n = b.node → b.id ∈ memo.map (·.1)) :
    n.knownDepth memo = n.height := by
  cases hn with
  | leaf id l => rfl
  | branch b hb =>
    rw [Branch.node, Node.knownDepth, h.lookup_eq hf hb (hfound b rfl)]
    rfl

end Memo

/-! ### The loop -/

/-- What the loop knows of heights, and the branches on its stack, the top first. -/
structure Measuring where
  memo : Memo := []
  stack : List Branch

namespace Measuring

/-- The branches that follow a branch. -/
def below (b : Branch) : List Branch :=
  b.children.filterMap Node.branch?

/-- Those of them that are not known. -/
def waiting (memo : Memo) (b : Branch) : List Branch :=
  (below b).filter fun d => (memo.lookup d.id).isNone

/-- The branch on top is taken off if it is known. Otherwise the branches that follow it are put on
the stack, as long as there are any that are not known, and then it becomes known itself. -/
def turn : Measuring → Option Measuring
  | ⟨_, []⟩ => none
  | ⟨memo, b :: rest⟩ =>
    if (memo.lookup b.id).isSome then some ⟨memo, rest⟩
    else
      match waiting memo b with
      | [] =>
        let heights := (below b).map fun d => (memo.lookup d.id).getD 0
        some ⟨(b.id, 1 + heights.max?.getD 0) :: memo, rest⟩
      | d :: others => some ⟨memo, (d :: others).reverse ++ b :: rest⟩

variable {known : List Branch} {memo : Memo} {b d : Branch} {rest : List Branch}

theorem mem_below : d ∈ below b ↔ ∃ side, b.child side = d.node := by
  unfold below
  rw [List.mem_filterMap]
  constructor
  · rintro ⟨n, hn, hd⟩
    rw [Node.branch?_eq_some.mp hd] at hn
    rcases List.mem_cons.mp hn with htrue | hn
    · exact ⟨.onTrue, htrue.symm⟩
    · exact ⟨.onFalse, (List.mem_singleton.mp hn).symm⟩
  · rintro ⟨side, hside⟩
    refine ⟨d.node, ?_, rfl⟩
    rw [← hside]
    cases side with
    | onTrue => exact List.mem_cons_self ..
    | onFalse => exact List.mem_cons_of_mem _ (List.mem_singleton_self _)

theorem size_below (h : d ∈ below b) : d.node.size < b.node.size := by
  obtain ⟨side, hside⟩ := mem_below.mp h
  rw [← hside]
  exact b.size_child side

theorem below_known (hf : Branch.Family known) (hb : b ∈ known) (h : d ∈ below b) : d ∈ known := by
  obtain ⟨side, hside⟩ := mem_below.mp h
  have hwithin := hf.child b hb side
  rw [hside] at hwithin
  exact Node.mem_of_within hwithin

theorem height_eq_max (b : Branch) :
    b.node.height = 1 + ((below b).map (·.node.height)).max?.getD 0 := by
  obtain ⟨id, decision, onTrue, onFalse⟩ := b
  cases onTrue with
  | leaf i l =>
    cases onFalse with
    | leaf j m => rfl
    | branch j e u g =>
      simp [below, Branch.children, List.filterMap_cons, Node.branch?, Branch.node, Node.height]
  | branch i d t f =>
    cases onFalse with
    | leaf j m =>
      simp [below, Branch.children, List.filterMap_cons, Node.branch?, Branch.node, Node.height]
    | branch j e u g => simp [below, Branch.children, Node.branch?, Branch.node, Node.height]

theorem mem_waiting : d ∈ waiting memo b ↔ d ∈ below b ∧ d.id ∉ memo.map (·.1) := by
  unfold waiting
  rw [List.mem_filter, ← Memo.isSome_lookup, Option.isNone_iff_eq_none, Option.isSome_iff_ne_none,
    not_not]

theorem length_waiting (memo : Memo) (b : Branch) : (waiting memo b).length ≤ 2 := by
  have hwaiting : (waiting memo b).length ≤ (below b).length := List.length_filter_le ..
  have hbelow : (below b).length ≤ b.children.length := List.length_filterMap_le ..
  exact hwaiting.trans hbelow

theorem turn_of_known (h : b.id ∈ memo.map (·.1)) : turn ⟨memo, b :: rest⟩ = some ⟨memo, rest⟩ := by
  simp only [turn, if_pos (Memo.isSome_lookup.mpr h)]

theorem turn_of_waiting (h : b.id ∉ memo.map (·.1)) (hwaiting : waiting memo b ≠ []) :
    turn ⟨memo, b :: rest⟩ = some ⟨memo, (waiting memo b).reverse ++ b :: rest⟩ := by
  have hnot : ¬ (memo.lookup b.id).isSome = true := fun hsome => h (Memo.isSome_lookup.mp hsome)
  obtain ⟨d, others, heq⟩ := List.exists_cons_of_ne_nil hwaiting
  simp only [turn, if_neg hnot, heq]

theorem turn_of_settled (hf : Branch.Family known) (hsound : Memo.Sound known memo) (hb : b ∈ known)
    (h : b.id ∉ memo.map (·.1)) (hwaiting : waiting memo b = []) :
    turn ⟨memo, b :: rest⟩ = some ⟨(b.id, b.node.height) :: memo, rest⟩ := by
  have hnot : ¬ (memo.lookup b.id).isSome = true := fun hsome => h (Memo.isSome_lookup.mp hsome)
  have hheights : ((below b).map fun d => (memo.lookup d.id).getD 0)
      = (below b).map (·.node.height) := by
    refine List.map_congr_left ?_
    intro d hd
    have hid : d.id ∈ memo.map (·.1) := by
      by_contra hid
      exact List.ne_nil_of_mem (mem_waiting.mpr ⟨hd, hid⟩) hwaiting
    rw [hsound.lookup_eq hf (below_known hf hb hd) hid]
    rfl
  simp only [turn, if_neg hnot, hwaiting, hheights, ← height_eq_max]

/-! ### What the loop does with the top of its stack -/

/-- The loop deals with some branches on top of its stack in a number of turns, in which it comes to
know further heights, all of them of branches below a size. -/
structure Deals (known : List Branch) (memo : Memo) (top : List Branch) (size : Nat) (new : Memo)
    (k : Nat) : Prop where
  sound : Memo.Sound known (new ++ memo)
  distinct : ((new ++ memo).map (·.1)).Nodup
  smaller : ∀ entry ∈ new, ∃ d ∈ known, d.id = entry.1 ∧ d.node.size < size
  found : ∀ b ∈ top, b.id ∈ (new ++ memo).map (·.1)
  turns : ∀ rest, Loop.turns turn k ⟨memo, top ++ rest⟩ = some ⟨new ++ memo, rest⟩
  few : k ≤ 3 * new.length + top.length

variable {top : List Branch} {size size' : Nat} {new : Memo} {k : Nat}

theorem Deals.weaken (h : Deals known memo top size new k) (hle : size ≤ size') :
    Deals known memo top size' new k := by
  refine ⟨h.sound, h.distinct, ?_, h.found, h.turns, h.few⟩
  intro entry hentry
  obtain ⟨d, hd, hid, hlt⟩ := h.smaller entry hentry
  exact ⟨d, hd, hid, Nat.lt_of_lt_of_le hlt hle⟩

theorem Deals.cons {later : Memo} {j : Nat} (h : Deals known memo [b] size new k)
    (hrest : Deals known (new ++ memo) top size later j) :
    Deals known memo (b :: top) size (later ++ new) (k + j) := by
  have hmemo : later ++ new ++ memo = later ++ (new ++ memo) := List.append_assoc ..
  refine ⟨?_, ?_, ?_, ?_, ?_, ?_⟩
  · rw [hmemo]
    exact hrest.sound
  · rw [hmemo]
    exact hrest.distinct
  · intro entry hentry
    exact (List.mem_append.mp hentry).elim (hrest.smaller entry) (h.smaller entry)
  · rw [hmemo]
    intro d hd
    rcases List.mem_cons.mp hd with rfl | hd
    · rw [List.map_append]
      exact List.mem_append_right _ (h.found _ (List.mem_singleton_self _))
    · exact hrest.found d hd
  · rw [hmemo]
    intro rest
    exact Loop.turns_add (h.turns (top ++ rest)) (hrest.turns rest)
  · have hk := h.few
    have hj := hrest.few
    simp only [List.length_append, List.length_cons, List.length_nil] at hk ⊢
    omega

theorem exists_deals_of_forall (hsound : Memo.Sound known memo) (hdistinct : (memo.map (·.1)).Nodup)
    (hall : ∀ b ∈ top, ∀ memo : Memo, memo.Sound known → (memo.map (·.1)).Nodup →
      ∃ new k, Deals known memo [b] size new k) :
    ∃ new k, Deals known memo top size new k := by
  induction top generalizing memo with
  | nil => exact ⟨[], 0, hsound, hdistinct, nofun, nofun, fun _ => rfl, Nat.le_refl _⟩
  | cons b top ih =>
    obtain ⟨new, k, hfirst⟩ := hall b (List.mem_cons_self ..) memo hsound hdistinct
    obtain ⟨later, j, hrest⟩ := ih hfirst.sound hfirst.distinct
      fun d hd => hall d (List.mem_cons_of_mem _ hd)
    exact ⟨later ++ new, k + j, hfirst.cons hrest⟩

/-- A branch is noted when those that follow it are known. -/
theorem deals_note (hf : Branch.Family known) (hsound : Memo.Sound known memo)
    (hdistinct : (memo.map (·.1)).Nodup) (hb : b ∈ known) (h : b.id ∉ memo.map (·.1))
    (hwaiting : waiting memo b = []) :
    Deals known memo [b] (b.node.size + 1) [(b.id, b.node.height)] 1 := by
  refine ⟨hsound.cons hb, List.nodup_cons.mpr ⟨h, hdistinct⟩, ?_, ?_, ?_, ?_⟩
  · intro entry hentry
    rw [List.mem_singleton.mp hentry]
    exact ⟨b, hb, rfl, Nat.lt_succ_self _⟩
  · intro d hd
    rw [List.mem_singleton.mp hd]
    exact List.mem_cons_self ..
  · intro rest
    exact Loop.turns_one (turn_of_settled hf hsound hb h hwaiting)
  · simp

/-- A branch is not known by then if the heights that the loop comes to know are of smaller ones. -/
theorem Deals.notMem (hf : Branch.Family known) (hb : b ∈ known) (hid : b.id ∉ memo.map (·.1))
    (h : Deals known memo top b.node.size new k) : b.id ∉ (new ++ memo).map (·.1) := by
  rw [List.map_append, List.mem_append, not_or]
  refine ⟨?_, hid⟩
  intro hmem
  obtain ⟨entry, hentry, heq⟩ := List.mem_map.mp hmem
  obtain ⟨d, hd, hdid, hlt⟩ := h.smaller entry hentry
  rw [hf.unique d hd b hb (hdid.trans heq)] at hlt
  exact Nat.lt_irrefl _ hlt

theorem Deals.settled (h : Deals known memo (waiting memo b).reverse size new k) :
    waiting (new ++ memo) b = [] := by
  refine List.eq_nil_iff_forall_not_mem.mpr ?_
  intro d hd
  obtain ⟨hbelow, hunknown⟩ := mem_waiting.mp hd
  rw [List.map_append, List.mem_append, not_or] at hunknown
  have hbefore : d ∈ waiting memo b := mem_waiting.mpr ⟨hbelow, hunknown.2⟩
  have hfound := h.found d (List.mem_reverse.mpr hbefore)
  rw [List.map_append, List.mem_append] at hfound
  exact hfound.elim hunknown.1 hunknown.2

/-- The loop puts the branches that are not known on top of a branch, deals with them and notes the
branch. -/
theorem Deals.note (hf : Branch.Family known) (hb : b ∈ known) (hid : b.id ∉ memo.map (·.1))
    (hwaiting : waiting memo b ≠ [])
    (h : Deals known memo (waiting memo b).reverse b.node.size new k) :
    Deals known memo [b] (b.node.size + 1) ((b.id, b.node.height) :: new) (1 + k + 1) := by
  have hnote := deals_note hf h.sound h.distinct hb (h.notMem hf hb hid) h.settled
  refine ⟨hnote.sound, hnote.distinct, ?_, hnote.found, ?_, ?_⟩
  · intro entry hentry
    rcases List.mem_cons.mp hentry with rfl | hmem
    · exact hnote.smaller _ (List.mem_singleton_self _)
    · exact (h.weaken (Nat.le_succ _)).smaller entry hmem
  · intro rest
    have hpush : Loop.turns turn 1 ⟨memo, b :: rest⟩
        = some ⟨memo, (waiting memo b).reverse ++ b :: rest⟩ :=
      Loop.turns_one (turn_of_waiting hid hwaiting)
    exact Loop.turns_add (Loop.turns_add hpush (h.turns (b :: rest))) (hnote.turns rest)
  · have hk := h.few
    have htwo := length_waiting memo b
    simp only [List.length_reverse, List.length_cons, List.length_nil] at hk ⊢
    omega

theorem exists_deals (hf : Branch.Family known) (hb : b ∈ known) (hsound : Memo.Sound known memo)
    (hdistinct : (memo.map (·.1)).Nodup) :
    ∃ new k, Deals known memo [b] (b.node.size + 1) new k := by
  -- on the size of the branch: those that are put on top of it are smaller
  induction hsize : b.node.size using Nat.strongRecOn generalizing b memo with
  | ind n ih =>
    subst hsize
    by_cases hid : b.id ∈ memo.map (·.1)
    · refine ⟨[], 1, hsound, hdistinct, nofun, ?_, ?_, by simp⟩
      · intro d hd
        rw [List.mem_singleton.mp hd]
        exact hid
      · intro rest
        exact Loop.turns_one (turn_of_known hid)
    · by_cases hwaiting : waiting memo b = []
      · exact ⟨_, 1, deals_note hf hsound hdistinct hb hid hwaiting⟩
      · have htop : ∃ new k, Deals known memo (waiting memo b).reverse b.node.size new k := by
          refine exists_deals_of_forall hsound hdistinct ?_
          intro d hd memo hsound hdistinct
          have hbelow := (mem_waiting.mp (List.mem_reverse.mp hd)).1
          have hlt := size_below hbelow
          obtain ⟨new, k, hdeals⟩ := ih _ hlt (below_known hf hb hbelow) hsound hdistinct rfl
          exact ⟨new, k, hdeals.weaken hlt⟩
        obtain ⟨new, k, hdeals⟩ := htop
        exact ⟨_, _, hdeals.note hf hb hid hwaiting⟩

/-- The loop finds the height of a branch. No branch is noted twice, so the number of turns is
bounded by the number of branches. -/
theorem turns_root (hf : Branch.Family known) (hb : b ∈ known) :
    ∃ k ≤ 3 * known.length + 1, ∃ memo,
      Loop.turns turn k ⟨[], [b]⟩ = some ⟨memo, []⟩ ∧ memo.lookup b.id = some b.node.height := by
  have hnone : Memo.Sound known [] := nofun
  obtain ⟨new, k, hdeals⟩ := exists_deals hf hb hnone List.nodup_nil
  have hturns := hdeals.turns []
  have hsound := hdeals.sound
  have hdistinct := hdeals.distinct
  have hfound := hdeals.found b (List.mem_singleton_self _)
  simp only [List.append_nil] at hturns hsound hdistinct hfound
  refine ⟨k, ?_, new, hturns, hsound.lookup_eq hf hb hfound⟩
  have hids : new.map (·.1) ⊆ known.map (·.id) := by
    intro id hid
    obtain ⟨entry, hentry, rfl⟩ := List.mem_map.mp hid
    obtain ⟨d, hd, heq⟩ := hsound entry hentry
    rw [heq]
    exact List.mem_map_of_mem hd
  have hlength := List.Nodup.length_le_of_subset hdistinct hids
  have hfew := hdeals.few
  simp only [List.length_map, List.length_cons, List.length_nil] at hlength hfew
  omega

end Measuring

/-! ### Entering and leaving branches -/

namespace DepthTask

variable {known : List Branch} {memo : Memo}

/-- When a node has been entered and left, its height is known, and so is all that was known. -/
theorem run_enter (hf : Branch.Family known) (n : Node) (hn : n.Within known)
    (hsound : Memo.Sound known memo) :
    ∃ memo' : Memo, memo'.Sound known ∧ memo.map (·.1) ⊆ memo'.map (·.1) ∧
      (∀ b : Branch, n = b.node → b.id ∈ memo'.map (·.1)) ∧
      ∀ rest, run memo (.enter n :: rest) = run memo' rest := by
  induction n using Node.child_induction generalizing memo with
  | leaf id l =>
    refine ⟨memo, hsound, List.Subset.refl _, nofun, ?_⟩
    intro rest
    rw [run]
  | branch b ih =>
    have hb : b ∈ known := Node.mem_of_within hn
    by_cases hid : b.id ∈ memo.map (·.1)
    · refine ⟨memo, hsound, List.Subset.refl _, ?_, ?_⟩
      · intro d hd
        rw [← Branch.node_injective hd]
        exact hid
      · intro rest
        rw [Branch.node, run, if_pos (Memo.isSome_lookup.mpr hid)]
    · obtain ⟨first, hfirst, hkept, htrue, hrun⟩ := ih .onTrue (hf.child b hb .onTrue) hsound
      obtain ⟨second, hsecond, hkept', hfalse, hrun'⟩ :=
        ih .onFalse (hf.child b hb .onFalse) hfirst
      refine ⟨(b.id, b.node.height) :: second, hsecond.cons hb, ?_, ?_, ?_⟩
      · intro id hmem
        exact List.mem_cons_of_mem _ (hkept' (hkept hmem))
      · intro d hd
        rw [← Branch.node_injective hd]
        exact List.mem_cons_self ..
      · intro rest
        have hnot : ¬ (memo.lookup b.id).isSome = true :=
          fun hsome => hid (Memo.isSome_lookup.mp hsome)
        have hdepth : ∀ side, (∀ d : Branch, b.child side = d.node → d.id ∈ second.map (·.1)) →
            (b.child side).knownDepth second = (b.child side).height :=
          fun side hknown => hsecond.knownDepth_eq hf (hf.child b hb side) hknown
        have htrue' := hdepth .onTrue fun d hd => hkept' (htrue d hd)
        have hfalse' := hdepth .onFalse hfalse
        simp only [Branch.child] at htrue' hfalse' hrun hrun'
        rw [Branch.node, run, if_neg hnot, hrun, hrun', run, htrue', hfalse']
        rfl

end DepthTask

theorem Node.depth_eq_height {known : List Branch} {n : Node} (hf : Branch.Family known)
    (hn : n.Within known) : n.depth = n.height := by
  have hnone : Memo.Sound known [] := nofun
  obtain ⟨memo, hsound, _, hfound, hrun⟩ := DepthTask.run_enter hf n hn hnone
  rw [Node.depth, hrun, DepthTask.run]
  exact hsound.knownDepth_eq hf hn hfound

/-! ### Compiled trees -/

variable {t : Table} {store : Store} {baseUri : String} {tree : Tree}

theorem Tree.depth_eq_height (h : (compile t store baseUri).tree = .ok tree) :
    tree.root.depth = tree.root.height := by
  obtain ⟨_, compiled, root, type, hcomplete, htree, _⟩ := compile_eq_ok h
  have hroot : tree.root = root.node := by rw [htree]
  exact Node.depth_eq_height hcomplete.family (hcomplete.root_within hroot)

/-- A depth is that of the longest way through a tree, and a bound for evaluations. -/
structure Tree.LongestWay (tree : Tree) (depth : Nat) : Prop where
  recursion : depth = tree.root.height
  /-- The loop ends, with the depth as what it knows of the root. -/
  loop : ∃ root : Branch, tree.root = root.node ∧
    ∃ k ≤ 3 * tree.branches.length + 1, ∃ memo,
      Loop.turns Measuring.turn k ⟨[], [root]⟩ = some ⟨memo, []⟩ ∧
      memo.lookup root.id = some depth
  /-- No way from the root has more decisions, -/
  ways : ∀ way, (tree.root :: way).IsChain Node.Leads →
    (Node.branchesOn (tree.root :: way)).length ≤ depth
  /-- and some way to a leaf has as many. -/
  longest : ∃ way, (tree.root :: way).IsChain Node.Leads ∧
    (∃ id l, (tree.root :: way).getLast? = some (.leaf id l)) ∧
    (Node.branchesOn (tree.root :: way)).length = depth
  /-- Every evaluation takes a way on which there are no more decisions, and no node twice. -/
  evaluations : ∀ now subject, ∃ way, Node.Takes now subject tree.root way ∧ way.Nodup ∧
    (Node.branchesOn way).length ≤ depth ∧
    ((tree.root.decisions now subject).map (·.node)).Sublist ((Node.branchesOn way).map (·.id))
  branches : depth ≤ tree.branches.length

/-- The depth that is reported is that of the longest way. -/
theorem analyze_maxDepth (h : (compile t store baseUri).tree = .ok tree) :
    (∃ report, tree.analyze none = .ok report) ∧
    ∀ table report, tree.analyze table = .ok report → tree.LongestWay report.maxDepth := by
  refine ⟨tree.exists_analysis nofun, ?_⟩
  intro table report hreport
  obtain ⟨_, compiled, root, type, hcomplete, htree, _⟩ := compile_eq_ok h
  have hf := hcomplete.family
  have hroot : tree.root = root.node := by rw [htree]
  have hwithin := hcomplete.root_within hroot
  have hlength : tree.branches.length = compiled.length := by
    rw [htree, List.length_reverse]
  have hdepth : report.maxDepth = tree.root.height := by
    obtain ⟨_, _, rfl⟩ := Tree.analyze_eq_ok hreport
    exact Tree.depth_eq_height h
  rw [hdepth]
  refine ⟨rfl, ?_, fun way => Node.length_branchesOn_le, Node.exists_longest tree.root, ?_, ?_⟩
  · rw [hroot, hlength]
    exact ⟨root, rfl, Measuring.turns_root hf hcomplete.root_mem⟩
  · intro now subject
    exact ⟨_, Node.takes_route now subject tree.root, Node.nodup_route now subject tree.root,
      Node.length_route_le now subject tree.root, Node.decisions_sublist now subject tree.root⟩
  · rw [hlength]
    exact Node.height_le_length hf hwithin

/-- The three branches are on one way, although a branch also leads past the second one. -/
theorem analyze_maxDepth_sharing :
    ∃ tree report, (compile Example.sharing Example.emptyStore "urn:grade").tree = .ok tree ∧
      tree.analyze none = .ok report ∧ tree.LongestWay report.maxDepth ∧ report.maxDepth = 3 := by
  have hvalue : (compile Example.sharing Example.emptyStore "urn:grade").tree.map
      (fun tree => tree.root.height) = .ok 3 := by decide +kernel
  obtain ⟨tree, htree, hheight⟩ := exists_tree hvalue
  obtain ⟨⟨report, hreport⟩, hall⟩ := analyze_maxDepth htree
  have hlongest := hall none report hreport
  exact ⟨tree, report, htree, hreport, hlongest, hlongest.recursion.trans hheight⟩

end DecisionTable
