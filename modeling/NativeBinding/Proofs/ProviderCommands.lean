import NativeBinding.Proofs.Holdings

/-!
Commands about providers are fair to what the objects of a scenario hold. So is every way to do
something with an object by its name, or with a provider that is taken in hand.
-/
namespace NativeBinding.Scenario

open OpenCL Bench

variable {host : Host} {k : Serial} {b : Bench}

section Drop

variable {α : Type} {drop : α → Action World Unit} {old : Option α}

/-- Dropping what had a name changes nothing but the world. -/
theorem run_dropOld (drop : α → Action World Unit) (old : Option α) (host : Host) (b : Bench) :
    (dropOld (fun a => drop a) old).run host b =
      ((), b.putWorld ((old.elim (pure ()) drop).run host b.desk.world).2) := by
  cases old <;> rfl

theorem phased_elim {g : α → Nat} {w : World}
    (h : ∀ a, old = some a → Phased host k (g a) 0 w ((drop a).run host w).2) :
    Phased host k ((old.map g).getD 0) 0 w ((old.elim (pure ()) drop).run host w).2 := by
  cases old with
  | none => exact (Acting.refl host k 0 w).phased
  | some a => exact h a rfl

end Drop

/-- Doing something with an object that is there. -/
theorem withObject_fair {α : Type} {object : Option α} {x : α → Action Bench Answer}
    (hb : b.Healthy) (h : ∀ a, object = some a → Fair host none false b ((x a).run host b).2) :
    Fair host none false b ((withObject object x).run host b).2 := by
  cases object with
  | none => exact hb.fair_refl host
  | some a => exact h a rfl

/-- Doing something with a provider that is taken in hand. -/
theorem withSource_settles {source : Source} {x : Held → Action Bench Answer} (kept : Bool)
    (hb : b.Healthy)
    (h : ∀ held b₁, Takes b (some held.provider) b₁ → b₁.Healthy → held.provider.Sound →
      Fair host (some held.provider) kept b₁ ((x held).run host b₁).2) :
    Settles host (if kept then none else (source.take.run host b).1.map Held.provider) b
      ((do withObject (← source.take) x).run host b).2 := by
  rw [Action.run_bind]
  rcases take_takes source host b with htake | ⟨held, b₁, htake, htakes⟩
  · rw [htake]
    obtain ⟨hand, b₁, kept', htakes, hfair, -⟩ := (hb.fair_refl host).settles
    exact ⟨hand, b₁, kept', htakes, hfair, by simp⟩
  · rw [htake]
    obtain ⟨hb₁, hsound⟩ := htakes.healthy hb
    refine ⟨_, b₁, kept, htakes, h held b₁ htakes hb₁ (hsound _ rfl), ?_⟩
    cases kept with
    | true => simp
    | false => exact fun _ => ⟨rfl, rfl⟩

/-- Dropping the provider under a name ends what it draws on, unless the application keeps it. -/
theorem dropProvider_phased (hk : k.IsRecorded) (host : Host) (b : Bench) (name : String) :
    Phased host k (b.providers.weighAt (fun held => held.provider.holds k) name) 0 b.desk.world
        (((b.providers.get? name).elim (pure ()) fun held => held.provider.drop).run host
          b.desk.world).2 ∨
      b.Bare k := by
  by_cases hbare : b.Bare k
  · exact .inr hbare
  · left
    refine phased_elim fun held hheld => (held.provider.drop_closing hk ?_ host _).phased
    intro p hp hserial
    exact hbare ⟨held, Shelf.mem_values_of_get? hheld, p, hp, hserial⟩

/-- Keeping a provider drops the one that had its name. -/
theorem keepProvider_fair (name : String) (held : Held) (hb : b.Healthy)
    (hsound : held.provider.Sound) :
    Fair host (some held.provider) true b ((keepProvider name held).run host b).2 := by
  let w := (((b.providers.get? name).elim (pure ()) fun held => held.provider.drop).run host
    b.desk.world).2
  have hrun : ((keepProvider name held).run host b).2 =
      { b.putWorld w with providers := b.providers.put name held } := by
    simp only [keepProvider, Action.run_bind, Action.run_get, Action.run_modify, run_dropOld]
    rfl
  rw [hrun]
  refine fair_providers hb ?_ ?_ ?_
  · intro other hother
    rcases Shelf.mem_values_put.mp hother with rfl | hother
    · exact hsound
    · exact hb.providers other (Shelf.mem_values_of_erase hother)
  · intro k hk
    rcases dropProvider_phased hk host b name with hdrop | hbare
    · exact .inl (phased_put hdrop held)
    · have hput := b.providers.weigh_put (fun held => held.provider.holds k) name held
      simp only [givenHolds_some]
      exact .inr ⟨hbare, by omega⟩
  · intro other hother p hp
    rcases Shelf.mem_values_put.mp hother with rfl | hother
    · exact .inr ⟨rfl, by rw [hp]⟩
    · exact .inl ⟨other, Shelf.mem_values_of_erase hother, hp⟩

theorem withProvider_fair {name : String} {x : Provider → Action Bench Answer} (hb : b.Healthy)
    (h : ∀ provider, (x provider).Within (Reads provider.root)) :
    Fair host none false b ((withProvider name x).run host b).2 := by
  refine withObject_fair hb fun held hheld => ?_
  refine Reads.fair (h held.provider host b) hb host fun k hk => ?_
  have hname : b.providers.get? name = some held := hheld
  have hone := Shelf.le_weigh (fun held : Held => held.provider.holds k)
    (Shelf.mem_values_of_get? hname)
  have hpos := Provider.holds_pos hk
  unfold Bench.holders
  omega

theorem withEntry_fair {provider : Option String} {f : NativeFunction}
    {x : Option (Entry f) → Action Bench Answer} (hb : b.Healthy)
    (h : ∀ source entry, (x entry).Within (Reads source)) :
    Fair host none false b ((withEntry provider f x).run host b).2 := by
  cases provider with
  | none => exact Reads.fair (h none none host b) hb host nofun
  | some name =>
    exact withProvider_fair hb fun p => (liftWorld_within (p.entryOf_within f)).bind (h p.root)

theorem ProviderCommand.load_fair (name : String) (fallbacks : List String) (as : String)
    (hb : b.Healthy) :
    Fair host none false b ((load name fallbacks as).perform.run host b).2 := by
  refine fair_of_outcome (x := SharedLibrary.load name fallbacks) Provider.shared hb ?_ ?_ ?_ ?_
  · exact fun _ => rfl
  · exact fun k _ => SharedLibrary.load_builds name fallbacks
  · intro l _ k hbare
    rw [not_holds_shared hbare]
    exact Nat.zero_le _
  · intro l w _
    let held : Held := { provider := .shared l, isOpaque := false }
    exact (keepProvider_fair as held (hb.putWorld w) (Provider.sound_shared l)).of_not_bare
      (by simp)

/-- A resolver takes the place of the provider that it is built around. -/
theorem ProviderCommand.resolver_fair (provider : Provider) (as : String) (hb : b.Healthy)
    (hsound : provider.Sound) :
    Fair host (some provider) false b ((do
      match ← (resolverFor provider).outcome with
      | .ok r =>
        keepProvider as { provider := .resolver r provider, isOpaque := false }
        return .ok (.strategy r.strategy)
      | .error failure => return .failed failure : Action Bench Answer).run host b).2 := by
  refine fair_of_outcome (x := resolverFor provider) (fun r => .resolver r provider) hb ?_ ?_ ?_ ?_
  · exact fun _ => rfl
  · exact fun k hk => resolverFor_builds hk provider
  · intro r _ k _
    simp only [Provider.holds_resolver, givenHolds_some]
    split
    · exact Nat.zero_le _
    · exact Nat.le_refl _
  · intro r w hr
    have hroot := hsound.root_isSome (resolverFor_ok hr).1
    let held : Held := { provider := .resolver r provider, isOpaque := false }
    exact (keepProvider_fair as held (hb.putWorld w)
      (Provider.sound_resolver r hroot)).of_not_bare (by simp)

/-- A provider that is released in its place ends what it draws on, unless the application keeps
it. -/
theorem ProviderCommand.release_fair {name : String} {held : Held} (hb : b.Healthy)
    (hheld : b.providers.get? name = some held) :
    Fair host none false b { b.putWorld (held.provider.release.run host b.desk.world).2 with
      providers := b.providers.put name
        { held with provider := (held.provider.release.run host b.desk.world).1 } } := by
  have hmem := Shelf.mem_values_of_get? hheld
  let released : Held := { held with provider := (held.provider.release.run host b.desk.world).1 }
  refine fair_providers hb ?_ ?_ ?_
  · intro other hother
    rcases Shelf.mem_values_put.mp hother with rfl | hother
    · exact Provider.sound_release (hb.providers held hmem) host b.desk.world
    · exact hb.providers other (Shelf.mem_values_of_erase hother)
  · intro k hk
    have hat : b.providers.weighAt (fun held => held.provider.holds k) name =
        held.provider.holds k := by
      simp [Shelf.weighAt, hheld]
    rw [givenHolds_none, Nat.zero_add]
    by_cases hbare : ∃ p, held.provider = .supplied p ∧ p.serial = k
    · obtain ⟨p, hp, hserial⟩ := hbare
      have hput := b.providers.weigh_put (fun held => held.provider.holds k) name released
      have hsame : released.provider = held.provider := by
        simp only [released, hp, Provider.release_supplied]
      rw [hat, hsame] at hput
      refine .inr ⟨⟨held, hmem, p, hp, hserial⟩, ?_⟩
      change (b.providers.put name released).weigh _ ≤ _
      omega
    · left
      have hclosing := (held.provider.release_closing hk host b.desk.world).phased
      rw [← hat] at hclosing
      have hphased := phased_put hclosing released
      have hnone : released.provider.holds k = 0 :=
        Provider.release_holds (fun p hp hserial => hbare ⟨p, hp, hserial⟩) host b.desk.world
      rwa [hnone, Nat.zero_add] at hphased
  · intro other hother p hp
    rcases Shelf.mem_values_put.mp hother with rfl | hother
    · exact .inl ⟨held, hmem, Provider.supplied_of_release hp⟩
    · exact .inl ⟨other, Shelf.mem_values_of_erase hother, hp⟩

theorem ProviderCommand.drop_fair (name : String) (hb : b.Healthy) :
    Fair host none false b ((drop name).perform.run host b).2 := by
  let w := (((b.providers.get? name).elim (pure ()) fun held => held.provider.drop).run host
    b.desk.world).2
  have hrun : ((drop name).perform.run host b).2 =
      { b.putWorld w with providers := b.providers.erase name } := by
    simp only [perform, Source.take, Action.run_bind, Action.run_modifyGet, w]
    cases b.providers.get? name <;> rfl
  rw [hrun]
  refine fair_providers hb ?_ ?_ ?_
  · exact fun held hheld => hb.providers held (Shelf.mem_values_of_erase hheld)
  · intro k hk
    rw [givenHolds_none, Nat.zero_add]
    rcases dropProvider_phased hk host b name with hdrop | hbare
    · exact .inl (phased_erase hdrop)
    · have herase := b.providers.weigh_erase (fun held => held.provider.holds k) name
      exact .inr ⟨hbare, by omega⟩
  · exact fun held hheld p hp => .inl ⟨held, Shelf.mem_values_of_erase hheld, hp⟩

/-- The provider that a command hands over for good, if it gets so far. -/
def ProviderCommand.handed (host : Host) (b : Bench) : ProviderCommand → Option Provider
  | resolver source _ => (source.take.run host b).1.map Held.provider
  | _ => none

theorem ProviderCommand.perform_settles (c : ProviderCommand) (hb : b.Healthy) :
    Settles host (c.handed host b) b (c.perform.run host b).2 := by
  cases c with
  | load name fallbacks as => exact (load_fair name fallbacks as hb).settles
  | resolver source as =>
    exact withSource_settles false hb fun held b₁ _ hb₁ hsound =>
      resolver_fair held.provider as hb₁ hsound
  | keep source isOpaque as =>
    refine withSource_settles true hb fun held b₁ _ hb₁ hsound => ?_
    exact keepProvider_fair as { held with isOpaque := held.isOpaque || isOpaque } hb₁ hsound
  | state name =>
    exact (withObject_fair hb fun held _ => hb.fair_refl host).settles
  | address provider name =>
    exact (withProvider_fair hb fun p => (liftWorld_within (p.address_within name)).bind
      fun _ => .pure _).settles
  | addressFor provider platform name =>
    exact (withProvider_fair hb fun p => (liftWorld_within (p.addressFor_within platform name)).bind
      fun _ => .pure _).settles
  | require provider name =>
    exact (withProvider_fair hb fun p => Action.Within.bind
      (liftWorld_within (p.require_within name)) fun _ => .pure _).settles
  | release name =>
    exact (withObject_fair hb fun held hheld => release_fair hb hheld).settles
  | drop name => exact (drop_fair name hb).settles
  | libraryCapabilities provider =>
    exact (withProvider_fair hb fun p => Action.Within.bind
      (liftWorld_within (Capabilities.ofLibrary_within p)) fun _ => .pure _).settles
  | platformCapabilities provider platform =>
    exact (withProvider_fair hb fun p => Action.Within.bind
      (liftWorld_within (Capabilities.ofPlatform_within p platform)) fun _ => .pure _).settles
  | platformCount provider =>
    exact (withEntry_fair hb fun _ entry => (liftWorld_within (platformCount_within entry)).bind
      fun _ => .pure _).settles
  | platformIds provider =>
    exact (withEntry_fair hb fun _ entry => (liftWorld_within (platformIds_within entry)).bind
      fun _ => .pure _).settles
  | platformText provider platform parameter =>
    exact (withEntry_fair hb fun _ entry => (liftWorld_within
      (platformText_within entry platform parameter)).bind fun _ => .pure _).settles

end NativeBinding.Scenario
