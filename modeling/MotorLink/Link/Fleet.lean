import MotorLink.Link.Call

/-! Fleets: links with engines of their own that share one pool of channels. -/

namespace MotorLink

/-- A link, its engine and the device behind it. -/
structure Member (σ : Type) where
  engine : Engine σ
  link : Link
  device : σ

/-- The shared pool and the members in order; a discarded member leaves its place empty. -/
structure Fleet (σ : Type) where
  pool : Pool
  members : List (Option (Member σ))

namespace Fleet

variable {σ : Type}

/-- The member in a place. -/
def member? (fleet : Fleet σ) (index : Nat) : Option (Member σ) := (fleet.members[index]?).join

/-- Carries out a call on one member, and tells what was done with its hardware meanwhile. -/
def perform (fleet : Fleet σ) (index now : Nat) (call : Call) :
    Option (Answer × List Event) × Fleet σ :=
  match fleet.member? index with
  | none => (none, fleet)
  | some member =>
    let session : Session σ := ⟨member.link, .fresh fleet.pool member.device⟩
    let (answer, after) := session.perform member.engine now call
    let left : Option (Member σ) :=
      if call = .discard then none
      else some { member with link := after.link, device := after.hardware.device }
    (some (answer, after.hardware.journal), ⟨after.hardware.pool, fleet.members.set index left⟩)

/-- Changes the device of one member. -/
def modifyDevice (fleet : Fleet σ) (index : Nat) (change : σ → σ) : Fleet σ :=
  match fleet.member? index with
  | none => fleet
  | some member =>
    { fleet with
      members := fleet.members.set index (some { member with device := change member.device }) }

end Fleet

end MotorLink
