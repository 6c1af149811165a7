/-!
# Permits

A number of permits that are handed out in the order in which they were asked for. One permit is a
lock.

## Main statements

- `held_grant_le`, `held_request_le`, `held_release_le`: there are never more holders than permits.
-/

namespace LiveConfig

/-- Permits, those who hold one, and those who wait for one, in order. -/
structure Permits where
  capacity : Nat
  held : List Nat := []
  waiting : List Nat := []
deriving DecidableEq, Repr

namespace Permits

/-- The largest number of permits: a word of 64 bits holds it and three flags. -/
def most : Nat := (1 <<< 61) - 1

/-- A lock is a single permit. -/
def lock : Permits := { capacity := 1 }

/-- Whether someone holds a permit. -/
def holds (id : Nat) (p : Permits) : Bool := p.held.contains id

/-- Whether someone holds a permit or waits for one. -/
def asked (id : Nat) (p : Permits) : Bool := p.held.contains id || p.waiting.contains id

/-- Hand out what is free. -/
def grant (p : Permits) : Permits :=
  let free := p.capacity - p.held.length
  { p with held := p.held ++ p.waiting.take free, waiting := p.waiting.drop free }

/-- Ask for a permit. -/
def request (id : Nat) (p : Permits) : Permits := grant { p with waiting := p.waiting ++ [id] }

/-- Give a permit back, or stop waiting for one. -/
def release (id : Nat) (p : Permits) : Permits :=
  grant { p with held := p.held.filter (· ≠ id), waiting := p.waiting.filter (· ≠ id) }

@[simp] theorem capacity_grant (p : Permits) : p.grant.capacity = p.capacity := rfl

theorem held_grant_le (p : Permits) (h : p.held.length ≤ p.capacity) :
    p.grant.held.length ≤ p.grant.capacity := by
  simp only [grant, List.length_append, List.length_take]
  omega

theorem held_request_le (id : Nat) (p : Permits) (h : p.held.length ≤ p.capacity) :
    (p.request id).held.length ≤ p.capacity :=
  held_grant_le { p with waiting := p.waiting ++ [id] } h

theorem held_release_le (id : Nat) (p : Permits) (h : p.held.length ≤ p.capacity) :
    (p.release id).held.length ≤ p.capacity :=
  held_grant_le { p with held := p.held.filter (· ≠ id), waiting := p.waiting.filter (· ≠ id) }
    (Nat.le_trans (List.length_filter_le _ _) h)

end Permits

end LiveConfig
