import Mathlib.Data.List.Nodup
import OverlayFabric.Proofs.Store.Lending
import OverlayFabric.Proofs.Synchronizer.Reachable

/-!
The legs of a gateway. While they are set up one by one, the store is the one before with a few free
rows lent to the router, and taking the legs off returns them.
-/

namespace OverlayFabric

namespace Topology

variable {configuration : Configuration} {physnet : String} {border : String × List String}

theorem bordersOf_ascending :
    ((Topology.ofConfiguration configuration).bordersOf physnet).Pairwise fun a b => a.1 < b.1 := by
  unfold bordersOf ofConfiguration
  rw [List.filterMap_map]
  refine configuration.borderSwitches.sorted.filterMap _ fun a b less c given d also => ?_
  obtain ⟨_, _, rfl⟩ := Option.map_eq_some_iff.mp given
  obtain ⟨_, _, rfl⟩ := Option.map_eq_some_iff.mp also
  exact less

theorem borderInterfaces_of_mem (member : border ∈ (Topology.ofConfiguration configuration).bordersOf physnet) :
    (Topology.ofConfiguration configuration).borderInterfaces border.1 physnet = border.2 := by
  obtain ⟨switch, known, given⟩ := List.mem_filterMap.mp member
  obtain ⟨ports, listed, rfl⟩ := Option.map_eq_some_iff.mp given
  have distinct : ((Topology.ofConfiguration configuration).borders.map (·.ip)).Nodup := by
    rw [ofConfiguration, List.map_map]
    exact (List.pairwise_map.mpr configuration.borderSwitches.sorted).nodup
  have found : (Topology.ofConfiguration configuration).borders.find? (·.ip == switch.ip) = some switch := by
    obtain ⟨first, found⟩ := Option.isSome_iff_exists.mp
      (List.find?_isSome.mpr ⟨switch, known, beq_iff_eq.mpr rfl⟩ :
        ((Topology.ofConfiguration configuration).borders.find? (·.ip == switch.ip)).isSome = true)
    rw [found, List.inj_on_of_nodup_map distinct (List.mem_of_find?_eq_some found) known
      (beq_iff_eq.mp (List.find?_some found :))]
  unfold borderInterfaces
  rw [found, Option.bind_some, listed]
  rfl

end Topology

namespace Synchronizer

def BorderLeg.leaf (leg : BorderLeg) : String × VlanId := (leg.switch, leg.vlan)

def BorderLeg.key (leg : BorderLeg) : Option String × Int := BorderPool.keyOf leg.leaf

def lentTo (base : Store) (owner : String) (l2 : SegmentId) (legs : List BorderLeg) : Store :=
  { base with
    l2 := Pool.l2Segment.lend [(none, l2.val)] owner base.l2
    border := Pool.borderVlan.lend (legs.map BorderLeg.key) owner base.border }

/-- The owner has a segment of layer 3, and nothing that a gateway needs besides. -/
structure Bare (base : Store) (owner : String) (ranges : PoolRanges) (l3 : SegmentId) : Prop where
  sound : base.Sound
  named : owner ≠ ""
  l2 : ∀ row ∈ base.l2, row.owner ≠ owner
  border : ∀ row ∈ base.border, row.owner ≠ owner
  l3 : ((SegmentPool.find ⟨.l3Segment, ranges.l3⟩ owner).run base).1 = .ok (some l3)

/-- Free rows of the store can be lent for the segment and the legs, which stand on different leaves. -/
structure Laid (base : Store) (ranges : PoolRanges) (l2 : SegmentId) (legs : List BorderLeg) : Prop where
  segment : Pool.l2Segment.Lendable (fun _ => ranges.l2) [(none, l2.val)] base.l2
  present : ∃ row ∈ base.l2, row.id = l2.val
  vlans : Pool.borderVlan.Lendable (BorderPool.rangesIn ⟨ranges.border⟩) (legs.map BorderLeg.key) base.border
  listed : BorderPool.Listed (legs.map BorderLeg.leaf) base.border
  ascending : legs.Pairwise fun a b => a.switch < b.switch

variable {base : Store} {owner : String} {ranges : PoolRanges} {l2 l3 : SegmentId} {legs rest : List BorderLeg}
  {leg : BorderLeg}

theorem keyOf_leaf : (legs.map BorderLeg.leaf).map BorderPool.keyOf = legs.map BorderLeg.key := by
  rw [List.map_map]
  rfl

theorem Laid.tail (laid : Laid base ranges l2 (leg :: rest)) : Laid base ranges l2 rest := by
  refine ⟨laid.segment, laid.present, fun row member given => laid.vlans row member (.tail _ given),
    fun leaf among => laid.listed leaf (.tail _ among), (List.pairwise_cons.mp laid.ascending).2⟩

theorem act_releaseBorder (bare : Bare base owner ranges l3) (laid : Laid base ranges l2 (leg :: rest)) :
    (lentTo base owner l2 (leg :: rest)).act .borderVlan
        ⟨.free, some leg.switch, BorderPool.rangesOf ⟨ranges.border⟩ leg.switch, .release owner⟩ =
      lentTo base owner l2 rest := by
  have admits : Pool.borderVlan.Admits (some leg.switch) := fun _ => rfl
  have returned := (bare.sound.pools .borderVlan).after_release_lent admits (Pool.open_to_of_unheld bare.border) laid.vlans
  have others : ((leg :: rest).map BorderLeg.key).filter (·.1 ≠ Pool.borderVlan.scopeOf (some leg.switch)) =
      rest.map BorderLeg.key := by
    rw [List.map_cons, List.filter_cons_of_neg (by simp [BorderLeg.key, BorderLeg.leaf, BorderPool.keyOf, Pool.scopeOf,
      Pool.isScoped]), List.filter_eq_self]
    intro key given
    obtain ⟨other, member, rfl⟩ := List.mem_map.mp given
    have less := (List.pairwise_cons.mp laid.ascending).1 other member
    have differ : other.switch ≠ leg.switch := fun same => String.lt_irrefl _ (same ▸ less)
    simpa [BorderLeg.key, BorderLeg.leaf, BorderPool.keyOf, Pool.scopeOf, Pool.isScoped] using differ
  rw [others] at returned
  exact congrArg (fun border => { lentTo base owner l2 (leg :: rest) with border := border }) returned

theorem act_releaseL2 (bare : Bare base owner ranges l3) (laid : Laid base ranges l2 []) :
    (lentTo base owner l2 []).act .l2Segment ⟨.free, none, ranges.l2, .release owner⟩ = base := by
  have returned := (bare.sound.pools .l2Segment).after_release_only rfl bare.l2 laid.segment
  have border : Pool.borderVlan.lend (([] : List BorderLeg).map BorderLeg.key) owner base.border = base.border :=
    Pool.lend_nil
  unfold Store.act lentTo
  rw [border]
  exact congrArg (fun l2 => { base with l2 := l2 }) returned

theorem find_lentTo (bare : Bare base owner ranges l3) (laid : Laid base ranges l2 legs) :
    ((SegmentPool.find ⟨.l2Segment, ranges.l2⟩ owner).run (lentTo base owner l2 legs)).1 = .ok (some l2) :=
  congrArg Prod.fst (SegmentPool.run_find_lent rfl (bare.sound.pools .l2Segment) bare.l2 laid.present rfl)

variable {ω : Type} {sync : Synchronizer ω} {site : Site ω} {router : Router} {gateway : ExternalGateway}
  {plan : GatewayPlan}

def setting (router : Router) (gateway : ExternalGateway) (plan : GatewayPlan) (l2 l3 : SegmentId)
    (leg : BorderLeg) : List Call :=
  [.pushL2 (borderRequest router gateway plan l2 leg), .pushVrf (routeRequest router gateway plan l3 leg)]

def withdrawal (router : Router) (gateway : ExternalGateway) (plan : GatewayPlan) (l2 l3 : SegmentId)
    (leg : BorderLeg) : List Call :=
  [.retractVrf ((routeRequest router gateway plan l3 leg).withMode .delete),
    .retractL2 (borderRequest router gateway plan l2 leg)]

theorem leads_removeLeg (alone : sync.outside.Alone) (served : sync.allocators = .ofRanges ranges)
    (bare : Bare base router.id ranges l3) (laid : Laid base ranges l2 (leg :: rest))
    (cabled : sync.topology.borderInterfaces leg.switch plan.physnet = leg.interfaces)
    (now : site.store = lentTo base router.id l2 (leg :: rest)) :
    Task.Leads (sync.removeLeg router gateway (some plan) (some l2) (some l3) leg.leaf) site fun result after =>
      result = .ok () ∧ after.store = lentTo base router.id l2 rest ∧
        after.calls = site.calls ++ withdrawal router gateway plan l2 l3 leg := by
  unfold removeLeg retractLeg
  simp only [bind_assoc]
  have same : (⟨leg.leaf.1, sync.topology.borderInterfaces leg.leaf.1 plan.physnet, leg.leaf.2⟩ : BorderLeg) = leg := by
    simp only [BorderLeg.leaf, cabled]
  rw [same]
  refine Task.Leads.ignore_send fun _ _ => Task.Leads.ignore_send fun _ _ => ?_
  have pool : sync.allocators.border = ⟨ranges.border⟩ := by rw [served]; rfl
  have sound : Pool.borderVlan.Sound site.store.border := now ▸ (bare.sound.pools .borderVlan).lend
  obtain ⟨held, released⟩ := @BorderPool.run_release ⟨ranges.border⟩ site.store leg.switch router.id sound
  refine Task.leads_bind.mpr ((Task.leads_store alone).mpr ?_)
  rw [pool, show leg.leaf.1 = leg.switch from rfl]
  simp only [Site.store_took, released]
  refine Task.leads_pure.mpr ⟨rfl, now ▸ act_releaseBorder bare laid, ?_⟩
  simp [Site.calls, Site.withStore, Site.took, withdrawal]

theorem leads_removeLegs (alone : sync.outside.Alone) (served : sync.allocators = .ofRanges ranges)
    (bare : Bare base router.id ranges l3) (laid : Laid base ranges l2 legs)
    (cabled : ∀ leg ∈ legs, sync.topology.borderInterfaces leg.switch plan.physnet = leg.interfaces)
    (now : site.store = lentTo base router.id l2 legs) :
    Task.Leads (Task.forAll (sync.removeLeg router gateway (some plan) (some l2) (some l3)) (legs.map BorderLeg.leaf))
      site fun result after => result = .ok () ∧ after.store = lentTo base router.id l2 [] ∧
        after.calls = site.calls ++ legs.flatMap (withdrawal router gateway plan l2 l3) := by
  -- What is off so far, and the legs that are still lent.
  let keeps (leaves : List (String × VlanId)) (mid : Site ω) : Prop :=
    ∃ gone left, gone ++ left = legs ∧ leaves = left.map BorderLeg.leaf ∧ Laid base ranges l2 left ∧
      mid.store = lentTo base router.id l2 left ∧
      mid.calls = site.calls ++ gone.flatMap (withdrawal router gateway plan l2 l3)
  have each (leaf : String × VlanId) (leaves : List (String × VlanId)) (mid : Site ω) (kept : keeps (leaf :: leaves) mid) :
      Task.Leads (sync.removeLeg router gateway (some plan) (some l2) (some l3) leaf) mid fun result after =>
        result = .ok () ∧ keeps leaves after := by
    obtain ⟨gone, left, split, named, laid, now, calls⟩ := kept
    cases left with
    | nil => cases named
    | cons leg rest =>
        obtain ⟨rfl, rfl⟩ := List.cons.inj named
        have here := cabled leg (split ▸ List.mem_append_right gone (.head _))
        refine (leads_removeLeg alone served bare laid here now).mono ?_
        intro result after ⟨done, store, more⟩
        refine ⟨done, gone ++ [leg], rest, by simpa using split, rfl, laid.tail, store, ?_⟩
        rw [more, calls, List.flatMap_append, List.append_assoc]
        simp
  refine (Task.Leads.forAll_ok each ⟨[], legs, rfl, rfl, laid, now, by simp⟩).mono ?_
  intro result after ⟨done, gone, left, split, named, _, store, calls⟩
  have finished : left = [] := List.map_eq_nil_iff.mp named.symm
  subst finished
  rw [List.append_nil] at split
  exact ⟨done, store, split ▸ calls⟩

theorem leads_teardownGateway (alone : sync.outside.Alone) (served : sync.allocators = .ofRanges ranges)
    (bare : Bare base router.id ranges l3) (laid : Laid base ranges l2 legs)
    (cabled : ∀ leg ∈ legs, sync.topology.borderInterfaces leg.switch plan.physnet = leg.interfaces)
    (now : site.store = lentTo base router.id l2 legs) :
    Task.Leads (sync.teardownGateway router gateway (some plan)) site fun result after =>
      result = .ok () ∧ after.store = base ∧ after.calls = site.calls ++ legs.flatMap (withdrawal router gateway plan l2 l3) := by
  have segment : (Task.store sync.outside fun _ => sync.allocators.l2.find router.id).run site = (.ok (some l2), site) := by
    refine Task.run_read ?_
    rw [served, now]
    exact find_lentTo bare laid
  have routed : (Task.store sync.outside fun _ => sync.allocators.l3.find router.id).run site = (.ok (some l3), site) := by
    refine Task.run_read ?_
    rw [served, now]
    exact bare.l3
  -- The table alone tells which legs there are, and in which order.
  have held : (Task.store sync.outside fun _ => BorderPool.heldBy router.id).run site =
      (.ok (legs.map BorderLeg.leaf), site) := by
    have border : site.store.border = Pool.borderVlan.lend ((legs.map BorderLeg.leaf).map BorderPool.keyOf) router.id
        base.border := by
      rw [now, keyOf_leaf]
      rfl
    have ascending : (legs.map BorderLeg.leaf).Pairwise fun a b => a.1 < b.1 := List.pairwise_map.mpr laid.ascending
    have found := BorderPool.run_heldBy_lent (bare.sound.pools .borderVlan) bare.named bare.border ascending
      laid.listed border
    exact Task.run_read (congrArg Prod.fst found)
  unfold teardownGateway
  refine (Task.leads_bind_of_run segment).mpr ((Task.leads_bind_of_run routed).mpr ((Task.leads_bind_of_run held).mpr ?_))
  refine Task.leads_bind.mpr (Task.leads_attempt.mpr ((leads_removeLegs alone served bare laid cabled now).mono ?_))
  rintro _ mid ⟨rfl, store, calls⟩
  have rest : Laid base ranges l2 [] := ⟨laid.segment, laid.present, (fun _ _ given => by cases given),
    (fun _ among => by cases among), .nil⟩
  have pool : sync.allocators.l2 = ⟨.l2Segment, ranges.l2⟩ := by rw [served]; rfl
  have sound : Pool.l2Segment.Sound mid.store.l2 := store ▸ (bare.sound.pools .l2Segment).lend
  obtain ⟨given, released⟩ := @SegmentPool.run_release ⟨.l2Segment, ranges.l2⟩ mid.store router.id sound
  refine Task.leads_bind.mpr ((Task.leads_store alone).mpr ?_)
  rw [pool, released]
  exact ⟨rfl, store ▸ act_releaseL2 bare rest, calls⟩

variable {configuration : Configuration} {calls : List Call} {border : String × List String}

def pushedL2 : Call → Option L2Request
  | .pushL2 request => some request
  | _ => none

/-- The calls push the legs: layer 2 of each once, in their order, and of some the route. -/
structure Pushes (router : Router) (gateway : ExternalGateway) (plan : GatewayPlan) (l2 l3 : SegmentId)
    (legs : List BorderLeg) (pushed : List Call) : Prop where
  each : pushed.filterMap pushedL2 = legs.map (borderRequest router gateway plan l2)
  only : ∀ call ∈ pushed, ∃ leg ∈ legs, call = .pushL2 (borderRequest router gateway plan l2 leg) ∨
    call = .pushVrf (routeRequest router gateway plan l3 leg)

/-- The legs are set up so far with the calls pushed, the last of them perhaps in part. -/
structure Standing (sync : Synchronizer ω) (router : Router) (gateway : ExternalGateway) (plan : GatewayPlan)
    (l2 l3 : SegmentId) (base : Store) (ranges : PoolRanges) (calls : List Call) (legs : List BorderLeg)
    (pushed : List Call) (site : Site ω) : Prop where
  laid : Laid base ranges l2 legs
  plotted : (legs.map fun leg => (leg.switch, leg.interfaces)) <+: sync.topology.bordersOf plan.physnet
  now : site.store = lentTo base router.id l2 legs
  called : site.calls = calls ++ pushed
  pushes : Pushes router gateway plan l2 l3 legs pushed

/-- What was called since: pushes, and then on exactly the leaves where layer 2 was pushed the withdrawal. -/
def Withdrawn (router : Router) (gateway : ExternalGateway) (plan : GatewayPlan) (l2 l3 : SegmentId)
    (calls after : List Call) : Prop :=
  ∃ legs pushed, Pushes router gateway plan l2 l3 legs pushed ∧ (legs.map (·.switch)).Nodup ∧
    after = calls ++ pushed ++ legs.flatMap (withdrawal router gateway plan l2 l3)

theorem Pushes.addL2 {pushed : List Call} (pushes : Pushes router gateway plan l2 l3 legs pushed) :
    Pushes router gateway plan l2 l3 (legs ++ [leg]) (pushed ++ [.pushL2 (borderRequest router gateway plan l2 leg)]) := by
  refine ⟨by simp [pushes.each, pushedL2], fun call member => ?_⟩
  rcases List.mem_append.mp member with member | member
  · obtain ⟨other, among, same⟩ := pushes.only call member
    exact ⟨other, List.mem_append_left _ among, same⟩
  · exact ⟨leg, List.mem_append_right _ (.head _), Or.inl (List.mem_singleton.mp member)⟩

theorem Pushes.addVrf {pushed : List Call} (pushes : Pushes router gateway plan l2 l3 legs pushed) (among : leg ∈ legs) :
    Pushes router gateway plan l2 l3 legs (pushed ++ [.pushVrf (routeRequest router gateway plan l3 leg)]) := by
  refine ⟨by simp [pushes.each, pushedL2], fun call member => ?_⟩
  rcases List.mem_append.mp member with member | member
  · exact pushes.only call member
  · exact ⟨leg, among, Or.inr (List.mem_singleton.mp member)⟩

variable {pushed : List Call}

theorem Standing.cabled (standing : Standing sync router gateway plan l2 l3 base ranges calls legs pushed site)
    (cabling : sync.topology = .ofConfiguration configuration) :
    ∀ leg ∈ legs, sync.topology.borderInterfaces leg.switch plan.physnet = leg.interfaces := by
  intro leg among
  have listed := standing.plotted.subset (List.mem_map_of_mem among)
  rw [cabling] at listed ⊢
  exact Topology.borderInterfaces_of_mem listed

theorem Standing.withdrawn (standing : Standing sync router gateway plan l2 l3 base ranges calls legs pushed site)
    (cabling : sync.topology = .ofConfiguration configuration) (alone : sync.outside.Alone)
    (served : sync.allocators = .ofRanges ranges) (bare : Bare base router.id ranges l3) :
    Task.Leads (sync.teardownGateway router gateway (some plan)) site fun _ after =>
      after.store = base ∧ Withdrawn router gateway plan l2 l3 calls after.calls := by
  refine (leads_teardownGateway alone served bare standing.laid (standing.cabled cabling) standing.now).mono ?_
  intro _ after ⟨_, store, more⟩
  have apart : (legs.map (·.switch)).Nodup := (List.pairwise_map.mpr standing.laid.ascending).nodup
  exact ⟨store, legs, pushed, standing.pushes, apart, standing.called ▸ more⟩

theorem Laid.allocate {store : Store} {border : String × List String} (laid : Laid base ranges l2 legs)
    (bare : Bare base owner ranges l3) (now : store = lentTo base owner l2 legs)
    (fresh : ∀ leg ∈ legs, leg.switch < border.1) :
    (∃ e, ((BorderPool.mk ranges.border).allocate .free border.1 owner).run store = (.error e, store)) ∨
      ∃ leg : BorderLeg, (leg.switch, leg.interfaces) = border ∧
        ((BorderPool.mk ranges.border).allocate .free border.1 owner).run store =
          (.ok leg.vlan, lentTo base owner l2 (legs ++ [leg])) ∧ Laid base ranges l2 (legs ++ [leg]) := by
  subst now
  have apart : ∀ leaf ∈ legs.map BorderLeg.leaf, leaf.1 ≠ border.1 := by
    intro leaf among same
    obtain ⟨leg, member, rfl⟩ := List.mem_map.mp among
    have less := fresh leg member
    rw [← same] at less
    exact String.lt_irrefl _ less
  have lent : (lentTo base owner l2 legs).border = Pool.borderVlan.lend ((legs.map BorderLeg.leaf).map BorderPool.keyOf)
      owner base.border := by
    rw [keyOf_leaf]
    rfl
  have lendable : Pool.borderVlan.Lendable (BorderPool.rangesIn ⟨ranges.border⟩)
      ((legs.map BorderLeg.leaf).map BorderPool.keyOf) base.border := keyOf_leaf ▸ laid.vlans
  have cases := BorderPool.run_allocate_lent (bare.sound.pools .borderVlan) bare.named bare.border apart lendable
    laid.listed lent
  rcases cases with refused | ⟨vlan, given, lendable, listed⟩
  · exact Or.inl refused
  · let leg : BorderLeg := ⟨border.1, border.2, vlan⟩
    have leaves : (legs ++ [leg]).map BorderLeg.leaf = legs.map BorderLeg.leaf ++ [(border.1, vlan)] := by
      rw [List.map_append]
      rfl
    rw [← leaves, keyOf_leaf] at given lendable
    rw [← leaves] at listed
    refine Or.inr ⟨leg, rfl, given, laid.segment, laid.present, lendable, listed, ?_⟩
    rw [List.pairwise_append]
    refine ⟨laid.ascending, List.pairwise_singleton _ _, fun before among other last => ?_⟩
    rw [List.mem_singleton.mp last]
    exact fresh before among

theorem leads_addLegs (cabling : sync.topology = .ofConfiguration configuration) (alone : sync.outside.Alone)
    (served : sync.allocators = .ofRanges ranges) (bare : Bare base router.id ranges l3)
    {borders : List (String × List String)}
    (standing : Standing sync router gateway plan l2 l3 base ranges calls legs
      (legs.flatMap (setting router gateway plan l2 l3)) site)
    (planned : (legs.map fun leg => (leg.switch, leg.interfaces)) ++ borders = sync.topology.bordersOf plan.physnet) :
    Task.Leads (sync.addLegs router gateway plan l2 l3 borders) site fun result after =>
      match result with
      | .ok () => ∃ legs, Standing sync router gateway plan l2 l3 base ranges calls legs
          (legs.flatMap (setting router gateway plan l2 l3)) after ∧
          (legs.map fun leg => (leg.switch, leg.interfaces)) = sync.topology.bordersOf plan.physnet
      | .error _ => after.store = base ∧ Withdrawn router gateway plan l2 l3 calls after.calls := by
  induction borders generalizing site legs with
  | nil => exact ⟨legs, standing, (List.append_nil _).symm.trans planned⟩
  | cons border rest ih =>
      -- Whatever fails, what stands by then is withdrawn.
      have fails {mid : Site ω} {legs : List BorderLeg} {pushed : List Call} (e : SyncError)
          (standing : Standing sync router gateway plan l2 l3 base ranges calls legs pushed mid) :
          Task.Leads (do sync.teardownGateway router gateway (some plan); throw e : Task ω Unit) mid fun result after =>
            match result with
            | .ok () => ∃ legs, Standing sync router gateway plan l2 l3 base ranges calls legs
                (legs.flatMap (setting router gateway plan l2 l3)) after ∧
                (legs.map fun leg => (leg.switch, leg.interfaces)) = sync.topology.bordersOf plan.physnet
            | .error _ => after.store = base ∧ Withdrawn router gateway plan l2 l3 calls after.calls :=
        (standing.withdrawn cabling alone served bare).bind (fun _ _ done => done) fun _ _ done => done
      have fresh : ∀ leg ∈ legs, leg.switch < border.1 := by
        have ascending := @Topology.bordersOf_ascending configuration plan.physnet
        rw [← cabling, ← planned, List.pairwise_append] at ascending
        exact fun leg among => ascending.2.2 _ (List.mem_map_of_mem among) border (.head _)
      have pool : sync.allocators.border = ⟨ranges.border⟩ := by rw [served]; rfl
      unfold addLegs addLeg
      refine Task.leads_bind.mpr (Task.leads_attempt.mpr (Task.leads_bind.mpr ((Task.leads_store alone).mpr ?_)))
      rw [pool]
      rcases standing.laid.allocate bare standing.now fresh with ⟨e, refused⟩ | ⟨leg, rfl, given, laid⟩
      · rw [refused]
        exact fails (.ofStore e) standing
      · rw [given]
        have onward : ((legs ++ [leg]).map fun leg => (leg.switch, leg.interfaces)) ++ rest =
            sync.topology.bordersOf plan.physnet := by
          rw [← planned]
          simp
        have stands {mid : Site ω} {more : List Call} (store : mid.store = lentTo base router.id l2 (legs ++ [leg]))
            (called : mid.calls = calls ++ more) (pushes : Pushes router gateway plan l2 l3 (legs ++ [leg]) more) :
            Standing sync router gateway plan l2 l3 base ranges calls (legs ++ [leg]) more mid :=
          ⟨laid, ⟨rest, onward⟩, store, called, pushes⟩
        have last : leg ∈ legs ++ [leg] := List.mem_append_right _ (.head _)
        have addedL2 : Pushes router gateway plan l2 l3 (legs ++ [leg]) _ := standing.pushes.addL2
        have added := addedL2.addVrf last
        refine Task.leads_bind.mpr (Task.Leads.send (fun state => ?_) fun e state => ?_)
        · refine Task.Leads.send (fun state => ?_) fun e state => ?_
          · have whole : legs.flatMap (setting router gateway plan l2 l3) ++
                [.pushL2 (borderRequest router gateway plan l2 leg)] ++ [.pushVrf (routeRequest router gateway plan l3 leg)] =
                  (legs ++ [leg]).flatMap (setting router gateway plan l2 l3) := by simp [setting]
            rw [whole] at added
            refine ih (stands rfl ?_ added) onward
            rw [← whole]
            simp [standing.called]
          · refine fails _ (stands rfl ?_ added)
            simp [standing.called]
        · refine fails _ (stands rfl ?_ addedL2)
          rw [Site.calls_took, Site.calls_withStore, standing.called, List.append_assoc]

end Synchronizer
end OverlayFabric
