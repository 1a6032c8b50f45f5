import NativeBinding.Proofs.Creation
import NativeBinding.Proofs.Shelves
import NativeBinding.Scenario.Run

/-!
What the objects of a scenario hold, and what a command may do with it. A command may take one
provider in hand; in the end an object holds it, or it is released.
-/
namespace NativeBinding.Scenario

open OpenCL

variable {host : Host} {k : Serial} {b b' : Bench} {hand : Option Provider}

namespace Bench

def putWorld (w : World) (b : Bench) : Bench := putDesk (Desk.putWorld w b.desk) b

/-- How often the objects of a bench hold `k`. -/
def holders (b : Bench) (k : Serial) : Nat :=
  b.providers.weigh (fun held => held.provider.holds k) + b.desk.holders k +
    b.audio.weigh (fun a => a.provider.holds k) + b.headsets.weigh fun r => r.provider.holds k

/-- The application keeps a provider of its own, and no object has been built around it. -/
def Bare (b : Bench) (k : Serial) : Prop :=
  ∃ held ∈ b.providers.values, ∃ p, held.provider = .supplied p ∧ p.serial = k

/-- No two names stand for one owner, and none but `global` for the owner from the start. -/
structure Named (owners : Shelf OwnerId) (next : OwnerId) : Prop where
  positive : Desk.globalOwner < next
  given : ∀ o ∈ owners.values, Desk.globalOwner < o ∧ o < next
  distinct : owners.values.Nodup

/-- How the objects of a bench belong together. -/
structure Healthy (b : Bench) : Prop where
  coherent : b.desk.Coherent
  named : Named b.owners b.desk.nextOwner
  /-- A session is held only by an owner that is there. -/
  owned : ∀ o s, b.desk.held o = some s → o = Desk.globalOwner ∨ o ∈ b.owners.values
  handled : ∀ s ∈ b.handles.values, (b.desk.sessions s).isSome
  providers : ∀ held ∈ b.providers.values, held.provider.Sound
  sessions : ∀ s provider, b.desk.provider? s = some provider → provider.root.isSome
  audio : ∀ a ∈ b.audio.values, a.provider.root.isSome
  headsets : ∀ r ∈ b.headsets.values, r.provider.root.isSome

/-- From one bench to the other what was in hand comes to be held, or is released, and nothing else
is let go of but in the same way. Only what the application keeps of its own may be dropped, and it
keeps what was in hand only if `kept` says so. -/
structure Fair (host : Host) (hand : Option Provider) (kept : Bool) (b b' : Bench) : Prop where
  healthy : b'.Healthy
  keeps : b.desk.Keeps b'.desk
  accounts : ∀ k : Serial, k.IsRecorded →
    Phased host k (givenHolds k hand + b.holders k) (b'.holders k) b.desk.world b'.desk.world ∨
      b.Bare k ∧ b'.holders k ≤ givenHolds k hand + b.holders k
  bare : ∀ k, b'.Bare k → b.Bare k ∨ kept = true ∧ ∃ p, hand = some (.supplied p) ∧ p.serial = k

@[simp] theorem holders_putWorld (w : World) (b : Bench) (k : Serial) :
    (b.putWorld w).holders k = b.holders k := rfl

theorem not_bare_library (b : Bench) (n : Nat) : ¬ b.Bare (.library n) := by
  rintro ⟨held, -, p, -, hserial⟩
  unfold SuppliedProvider.serial at hserial
  split at hserial <;> cases hserial

/-- A library is no provider of the application. -/
theorem not_holds_shared (h : b.Bare k) (l : SharedLibrary) : (Provider.shared l).holds k = 0 := by
  rw [Provider.holds, if_neg]
  intro hroot
  obtain ⟨opened, -, rfl⟩ := Option.map_eq_some_iff.mp hroot
  exact b.not_bare_library opened.number h

theorem holders_pos_of_bare (h : b.Bare k) : 0 < b.holders k := by
  obtain ⟨held, hmem, p, hp, hserial⟩ := h
  have hle := Shelf.le_weigh (fun held : Held => held.provider.holds k) hmem
  have hone : held.provider.holds k = 1 := by
    simp [hp, Provider.holds, Provider.root, hserial]
  unfold holders
  omega

theorem Healthy.putWorld (h : b.Healthy) (w : World) : (b.putWorld w).Healthy where
  coherent := h.coherent.putWorld w
  named := h.named
  owned := h.owned
  handled := h.handled
  providers := h.providers
  sessions := h.sessions
  audio := h.audio
  headsets := h.headsets

/-- What leaves all objects as they are, and every holding too. -/
theorem Healthy.fair_putWorld (h : b.Healthy) {w : World}
    (hw : ∀ k : Serial, k.IsRecorded →
      Phased host k (b.holders k) (b.holders k) b.desk.world w) :
    Fair host none false b (b.putWorld w) where
  healthy := h.putWorld w
  keeps := b.desk.keeps_refl
  accounts := by
    intro k hk
    left
    rw [givenHolds_none, Nat.zero_add]
    exact hw k hk
  bare := fun _ => .inl

theorem Healthy.fair_refl (h : b.Healthy) (host : Host) : Fair host none false b b :=
  h.fair_putWorld (w := b.desk.world) fun k _ => (Acting.refl host k _ _).phased

/-- What could not be built was released. -/
theorem Healthy.fair_failed (h : b.Healthy) {w : World}
    (hw : ∀ k : Serial, k.IsRecorded → Phased host k (givenHolds k hand) 0 b.desk.world w) :
    Fair host hand false b (b.putWorld w) where
  healthy := h.putWorld w
  keeps := b.desk.keeps_refl
  accounts := by
    intro k hk
    left
    have hframe := (hw k hk).frame (b.holders k)
    rwa [Nat.zero_add] at hframe
  bare := fun _ => .inl

/-- What is in hand may first become something else. -/
theorem Fair.of_build {built : Provider} {w : World}
    (hbuild : ∀ k : Serial, k.IsRecorded →
      Acting host k (givenHolds k hand) (built.holds k) b.desk.world w)
    (hbare : ∀ k, b.Bare k → built.holds k ≤ givenHolds k hand)
    (h : Fair host (some built) false (b.putWorld w) b') : Fair host hand false b b' where
  healthy := h.healthy
  keeps := h.keeps
  accounts := by
    intro k hk
    rcases h.accounts k hk with hphased | ⟨hkept, hle⟩
    · exact .inl (((hbuild k hk).frame (b.holders k)).then hphased)
    · have hless := hbare k hkept
      rw [holders_putWorld] at hle
      simp only [givenHolds_some] at hle
      exact .inr ⟨hkept, by omega⟩
  bare := by
    intro k hk
    rcases h.bare k hk with hk | ⟨hkept, -⟩
    · exact .inl hk
    · cases hkept

/-- What is no provider of the application is not kept as one. -/
theorem Fair.of_not_bare {kept : Bool} (h : Fair host hand kept b b')
    (hhand : ∀ p, hand ≠ some (.supplied p)) : Fair host hand false b b' where
  healthy := h.healthy
  keeps := h.keeps
  accounts := h.accounts
  bare := by
    intro k hk
    rcases h.bare k hk with hk | ⟨-, p, hp, -⟩
    · exact .inl hk
    · exact (hhand p hp).elim

/-- From one bench to the other only names are looked up in `source`. -/
def Reads (source : Option Serial) (b b' : Bench) : Prop :=
  ∃ w, b' = b.putWorld w ∧ Consulting source b.desk.world w

instance (source : Option Serial) : IsPreorder Bench (Reads source) where
  refl b := ⟨b.desk.world, rfl, Std.Refl.refl _⟩
  trans := by
    rintro b b' b'' ⟨w, rfl, hw⟩ ⟨w', rfl, hw'⟩
    exact ⟨w', rfl, IsTrans.trans _ _ _ hw hw'⟩

theorem liftWorld_within {α : Type} {source : Option Serial} {x : Action World α}
    (h : x.Within (Consulting source)) : (liftM x : Action Bench α).Within (Reads source) :=
  fun host b => ⟨(x.run host b.desk.world).2, rfl, h host b.desk.world⟩

theorem Reads.fair {source : Option Serial} (h : Reads source b b') (hb : b.Healthy) (host : Host)
    (hheld : ∀ k, source = some k → 0 < b.holders k) : Fair host none false b b' := by
  obtain ⟨w, rfl, hw⟩ := h
  exact hb.fair_putWorld fun k _ => (hw.acting host (hheld k)).phased

theorem fair_of_consults {s : SessionId} {d : Desk} (h : s.Consults b.desk d) (hb : b.Healthy)
    (host : Host) : Fair host none false b (putDesk d b) := by
  obtain ⟨w, rfl, hw⟩ := h
  refine hb.fair_putWorld fun k _ => (hw.acting host ?_).phased
  intro hroot
  obtain ⟨provider, hprovider, hdraws⟩ := Option.bind_eq_some_iff.mp hroot
  have hone : b.desk.sessionHolds k s = 1 := by
    simp [Desk.sessionHolds, hprovider, Provider.holds, hdraws]
  obtain ⟨x, hx, -⟩ := Option.bind_eq_some_iff.mp hprovider
  have hle := Desk.sessionHolds_le hb.coherent k hx
  unfold holders
  omega

/-- What is put under a name takes the place of what is dropped. -/
theorem phased_put {α : Type} {g : α → Nat} {shelf : Shelf α} {name : String} {w w' : World}
    (hdrop : Phased host k (shelf.weighAt g name) 0 w w') (a : α) :
    Phased host k (g a + shelf.weigh g) ((shelf.put name a).weigh g) w w' := by
  have hframe := hdrop.frame ((shelf.put name a).weigh g)
  rwa [Nat.zero_add, shelf.weigh_put g name a] at hframe

theorem phased_erase {α : Type} {g : α → Nat} {shelf : Shelf α} {name : String} {w w' : World}
    (hdrop : Phased host k (shelf.weighAt g name) 0 w w') :
    Phased host k (shelf.weigh g) ((shelf.erase name).weigh g) w w' := by
  have hframe := hdrop.frame ((shelf.erase name).weigh g)
  rwa [Nat.zero_add, shelf.weigh_erase g name] at hframe

/-- What is held besides stays held. -/
theorem phased_besides (others : Nat) {given x x' n n' : Nat} {w w' : World}
    (h : Phased host k (given + x) x' w w') (hn : n = x + others) (hn' : n' = x' + others) :
    Phased host k (given + n) n' w w' := by
  rw [hn, hn', ← Nat.add_assoc]
  exact h.frame others

/-! What is fair to one kind of objects is fair to all. -/

theorem fair_providers {kept : Bool} {providers : Shelf Held} {w : World} (hb : b.Healthy)
    (hsound : ∀ held ∈ providers.values, held.provider.Sound)
    (haccounts : ∀ k : Serial, k.IsRecorded →
      Phased host k (givenHolds k hand + b.providers.weigh fun held => held.provider.holds k)
          (providers.weigh fun held => held.provider.holds k) b.desk.world w ∨
        b.Bare k ∧ providers.weigh (fun held => held.provider.holds k) ≤
          givenHolds k hand + b.providers.weigh fun held => held.provider.holds k)
    (hbare : ∀ held ∈ providers.values, ∀ p, held.provider = .supplied p →
      (∃ old ∈ b.providers.values, old.provider = .supplied p) ∨
        kept = true ∧ hand = some (.supplied p)) :
    Fair host hand kept b { b.putWorld w with providers := providers } := by
  constructor
  case healthy =>
    have hw := hb.putWorld w
    exact { hw with providers := hsound }
  case keeps => exact b.desk.keeps_refl
  case accounts =>
    intro k hk
    let others : Nat := b.desk.holders k + b.audio.weigh (fun a => a.provider.holds k) +
      b.headsets.weigh fun r => r.provider.holds k
    have hn : b.holders k = b.providers.weigh (fun held => held.provider.holds k) + others := by
      simp only [holders, others]
      omega
    have hn' : ({ b.putWorld w with providers := providers } : Bench).holders k =
        providers.weigh (fun held => held.provider.holds k) + others := by
      simp only [holders, others, putWorld, putDesk, Desk.holders_putWorld]
      omega
    rcases haccounts k hk with hphased | ⟨hbare, hle⟩
    · exact .inl (phased_besides others hphased hn hn')
    · exact .inr ⟨hbare, by omega⟩
  case bare =>
    rintro k ⟨held, hheld, p, hp, hserial⟩
    rcases hbare held hheld p hp with ⟨old, hold, hp⟩ | ⟨hkept, hhand⟩
    · exact .inl ⟨old, hold, p, hp, hserial⟩
    · exact .inr ⟨hkept, p, hhand, hserial⟩

theorem fair_desk {d : Desk} {owners : Shelf OwnerId} {handles : Shelf SessionId} (hb : b.Healthy)
    (hcoherent : d.Coherent) (hkeeps : b.desk.Keeps d) (hnamed : Named owners d.nextOwner)
    (howned : ∀ o s, d.held o = some s → o = Desk.globalOwner ∨ o ∈ owners.values)
    (hhandled : ∀ s ∈ handles.values, (d.sessions s).isSome)
    (hroots : ∀ s provider, d.provider? s = some provider → provider.root.isSome)
    (haccounts : ∀ k : Serial, k.IsRecorded →
      Phased host k (givenHolds k hand + b.desk.holders k) (d.holders k) b.desk.world d.world) :
    Fair host hand false b { putDesk d b with owners := owners, handles := handles } := by
  constructor
  case healthy =>
    exact { hb with
      coherent := hcoherent
      named := hnamed
      owned := howned
      handled := hhandled
      sessions := hroots }
  case keeps => exact hkeeps
  case accounts =>
    intro k hk
    left
    refine phased_besides (b.providers.weigh (fun held => held.provider.holds k) +
      b.audio.weigh (fun a => a.provider.holds k) + b.headsets.weigh fun r => r.provider.holds k)
      (haccounts k hk) ?_ ?_
    all_goals
      simp only [holders, putDesk]
      omega
  case bare => exact fun _ => .inl

theorem fair_audio {audio : Shelf OpenAL.AudioLibrary} {w : World} (hb : b.Healthy)
    (hroots : ∀ a ∈ audio.values, a.provider.root.isSome)
    (haccounts : ∀ k : Serial, k.IsRecorded →
      Phased host k (givenHolds k hand + b.audio.weigh fun a => a.provider.holds k)
        (audio.weigh fun a => a.provider.holds k) b.desk.world w) :
    Fair host hand false b { b.putWorld w with audio := audio } := by
  constructor
  case healthy =>
    have hw := hb.putWorld w
    exact { hw with audio := hroots }
  case keeps => exact b.desk.keeps_refl
  case accounts =>
    intro k hk
    left
    refine phased_besides (b.providers.weigh (fun held => held.provider.holds k) +
      b.desk.holders k + b.headsets.weigh fun r => r.provider.holds k) (haccounts k hk) ?_ ?_
    all_goals
      simp only [holders, putWorld, putDesk, Desk.holders_putWorld]
      omega
  case bare => exact fun _ => .inl

theorem fair_headsets {headsets : Shelf LibOVR.HeadsetRuntime} {w : World} (hb : b.Healthy)
    (hroots : ∀ r ∈ headsets.values, r.provider.root.isSome)
    (haccounts : ∀ k : Serial, k.IsRecorded →
      Phased host k (givenHolds k hand + b.headsets.weigh fun r => r.provider.holds k)
        (headsets.weigh fun r => r.provider.holds k) b.desk.world w) :
    Fair host hand false b { b.putWorld w with headsets := headsets } := by
  constructor
  case healthy =>
    have hw := hb.putWorld w
    exact { hw with headsets := hroots }
  case keeps => exact b.desk.keeps_refl
  case accounts =>
    intro k hk
    left
    refine phased_besides (b.providers.weigh (fun held => held.provider.holds k) +
      b.desk.holders k + b.audio.weigh fun a => a.provider.holds k) (haccounts k hk) ?_ ?_
    all_goals
      simp only [holders, putWorld, putDesk, Desk.holders_putWorld]
      omega
  case bare => exact fun _ => .inl

/-- What keeps a result of an attempt is fair if it only answers a failure. -/
theorem fair_of_outcome {α : Type} {x : Attempt World α}
    {keep : Except Failure α → Action Bench Answer} (built : α → Provider) (hb : b.Healthy)
    (hfailed : ∀ failure, keep (.error failure) = return .failed failure)
    (hbuilds : ∀ k : Serial, k.IsRecorded →
      x.Builds host k (givenHolds k hand) fun r => (built r).holds k)
    (hbare : ∀ r, (x.run host b.desk.world).1 = .ok r →
      ∀ k, b.Bare k → (built r).holds k ≤ givenHolds k hand)
    (hkeep : ∀ r w, (x.run host b.desk.world).1 = .ok r →
      Fair host (some (built r)) false (b.putWorld w) ((keep (.ok r)).run host (b.putWorld w)).2) :
    Fair host hand false b (((liftM x.outcome : Action Bench _) >>= keep).run host b).2 := by
  replace hbuilds := fun k hk => hbuilds k hk b.desk.world
  have hstep : (liftM x.outcome : Action Bench _).run host b = ((x.run host b.desk.world).1,
    b.putWorld (x.run host b.desk.world).2) := rfl
  rw [Action.run_bind, hstep]
  rcases hrun : x.run host b.desk.world with ⟨failure | r, w⟩
  all_goals
    simp only [hrun] at hbuilds
    rw [hrun] at hbare hkeep
  · rw [hfailed]
    exact hb.fair_failed hbuilds
  · exact .of_build hbuilds (hbare r rfl) (hkeep r w rfl)

/-- A provider is taken in hand: none, a new one of the application, or one that had a name. -/
inductive Takes : Bench → Option Provider → Bench → Prop where
  | nothing (b : Bench) : Takes b none b
  | supplied (b : Bench) (library : LibraryId) (isFull : Bool) :
    Takes b (some (.supplied { number := b.desk.world.nextNumber, library, isFull }))
      (b.putWorld { b.desk.world with nextNumber := b.desk.world.nextNumber + 1 })
  | named {b : Bench} {name : String} {held : Held} : b.providers.get? name = some held →
    Takes b (some held.provider) { b with providers := b.providers.erase name }

namespace Takes

variable {b₁ : Bench}

theorem healthy (h : Takes b hand b₁) (hb : b.Healthy) :
    b₁.Healthy ∧ ∀ p, hand = some p → p.Sound := by
  cases h with
  | nothing => exact ⟨hb, nofun⟩
  | supplied library isFull =>
    refine ⟨hb.putWorld _, ?_⟩
    rintro p ⟨⟩
    exact Provider.sound_supplied _
  | named hname =>
    constructor
    · exact {
        coherent := hb.coherent
        named := hb.named
        owned := hb.owned
        handled := hb.handled
        providers := fun other hother => hb.providers other (Shelf.mem_values_of_erase hother)
        sessions := hb.sessions
        audio := hb.audio
        headsets := hb.headsets }
    · rintro p ⟨⟩
      exact hb.providers _ (Shelf.mem_values_of_get? hname)

/-- What is in hand was held before, unless it is new. -/
theorem holders (h : Takes b hand b₁) (k : Serial) :
    givenHolds k hand + b₁.holders k = b.holders k ∨
      b.desk.world.nextNumber = k.number ∧ b₁.desk.world.nextNumber = k.number + 1 ∧
        givenHolds k hand + b₁.holders k = b.holders k + 1 := by
  cases h with
  | nothing => exact .inl (Nat.zero_add _)
  | @named name held hname =>
    left
    have herase := b.providers.weigh_erase (fun held => held.provider.holds k) name
    rw [Shelf.weighAt, hname] at herase
    simp only [Option.map_some, Option.getD_some, givenHolds_some, Bench.holders] at herase ⊢
    omega
  | supplied library isFull =>
    let p : SuppliedProvider := { number := b.desk.world.nextNumber, library, isFull }
    have hnumber : p.serial.number = b.desk.world.nextNumber := by
      cases isFull <;> rfl
    simp only [givenHolds_some, Provider.holds, Provider.root,
      Option.some.injEq, holders_putWorld]
    by_cases hk : p.serial = k
    · subst hk
      exact .inr ⟨hnumber.symm, congrArg Nat.succ hnumber.symm, by simp [p, Nat.add_comm]⟩
    · exact .inl (by simp [p, hk])

theorem bare (h : Takes b hand b₁) (hk : b₁.Bare k) : b.Bare k := by
  cases h with
  | nothing => exact hk
  | supplied => exact hk
  | named hname =>
    obtain ⟨other, hother, hp⟩ := hk
    exact ⟨other, Shelf.mem_values_of_erase hother, hp⟩

theorem history (h : Takes b hand b₁) : b₁.desk.world.history = b.desk.world.history := by
  cases h <;> rfl

theorem numbers (h : Takes b hand b₁) :
    b.desk.world.nextNumber ≤ b₁.desk.world.nextNumber := by
  cases h with
  | nothing => exact Nat.le_refl _
  | supplied => exact Nat.le_succ _
  | named _ => exact Nat.le_refl _

theorem owners (h : Takes b hand b₁) : b₁.owners = b.owners := by
  cases h <;> rfl

theorem keeps (h : Takes b hand b₁) : b.desk.Keeps b₁.desk := by
  cases h <;> exact b.desk.keeps_refl

end Takes

theorem take_takes (source : Source) (host : Host) (b : Bench) :
    source.take.run host b = (none, b) ∨
      ∃ held b₁, source.take.run host b = (some held, b₁) ∧ Takes b (some held.provider) b₁ := by
  cases source with
  | supplied k => exact .inr ⟨_, _, rfl, .supplied b k true⟩
  | plain k => exact .inr ⟨_, _, rfl, .supplied b k false⟩
  | named name =>
    cases hname : b.providers.get? name with
    | none =>
      left
      simp [Source.take, hname, Shelf.erase_of_none hname]
    | some held =>
      right
      exact ⟨held, _, by simp [Source.take, hname], .named hname⟩

/-- From one bench to the other a provider is taken in hand, if any, and then all is fair. What is
handed over is not kept as it is. -/
def Settles (host : Host) (handed : Option Provider) (b b' : Bench) : Prop :=
  ∃ hand b₁ kept, Takes b hand b₁ ∧ Fair host hand kept b₁ b' ∧
    (handed.isSome → hand = handed ∧ kept = false)

theorem Fair.settles (h : Fair host none false b b') : Settles host none b b' :=
  ⟨none, b, false, .nothing b, h, nofun⟩

end Bench

end NativeBinding.Scenario
