import RebasingProxy.Backend

/-! # What comes about in time

A result is there in time if the wait for it is not longer than the limit. Where one wait follows
another both count, so a backend that takes long for the connection has less time left to serve.
-/
namespace RebasingProxy

namespace Duration

theorem zero_le (limit : Duration) : 0 ≤ limit := Nat.zero_le limit.nanoseconds

theorem le_of_add_le {wait later limit : Duration} (h : wait + later ≤ limit) : wait ≤ limit :=
  Nat.le_of_add_right_le h

end Duration

namespace Eventual
variable {α β : Type} {limit : Duration}

def InTime (event : Eventual α) (limit : Duration) (result : α) : Prop :=
  ∃ wait, event = .after wait result ∧ wait ≤ limit

@[simp] theorem not_inTime_never (result : α) : ¬ (never : Eventual α).InTime limit result := nofun

@[simp] theorem inTime_after {wait : Duration} {given result : α} :
    (after wait given).InTime limit result ↔ given = result ∧ wait ≤ limit := by
  constructor
  · rintro ⟨_,⟨⟩,hwait⟩
    exact ⟨rfl,hwait⟩
  · rintro ⟨rfl,hwait⟩
    exact ⟨wait,rfl,hwait⟩

theorem within_eq_some {event : Eventual α} {result : α} :
    event.within limit = some result ↔ event.InTime limit result := by
  cases event with
  | never => simp [within]
  | after wait given => simp [within, and_comm]

theorem within_eq_none {event : Eventual α} :
    event.within limit = none ↔ ∀ result, ¬ event.InTime limit result := by
  simp only [← within_eq_some, Option.eq_none_iff_forall_ne_some, ne_eq]

/-- What two steps come to is there in time if both waits together are not too long. -/
theorem inTime_bind {first : Eventual α} {next : α → Eventual β} {result : β} :
    (first.bind next).InTime limit result ↔ ∃ wait middle later, first = .after wait middle ∧
      next middle = .after later result ∧ wait + later ≤ limit := by
  constructor
  · intro h
    cases first with
    | never => exact absurd h (not_inTime_never result)
    | after wait middle =>
      rw [bind] at h
      cases hnext : next middle with
      | never =>
        rw [hnext] at h
        exact absurd h (not_inTime_never result)
      | after later last =>
        rw [hnext] at h
        obtain ⟨rfl,hlimit⟩ := inTime_after.mp h
        exact ⟨wait,middle,later,rfl,hnext,hlimit⟩
  · rintro ⟨wait,middle,later,rfl,hnext,hlimit⟩
    rw [bind, hnext]
    exact ⟨_,rfl,hlimit⟩

theorem map_eq_after {event : Eventual α} {f : α → β} {wait : Duration} {result : β} :
    event.map f = .after wait result ↔ ∃ given, event = .after wait given ∧ f given = result := by
  constructor
  · intro h
    cases event with
    | never => cases h
    | after later given =>
      cases h
      exact ⟨given,rfl,rfl⟩
  · rintro ⟨given,rfl,rfl⟩
    rfl

end Eventual

namespace Backend

/-- The backend takes the connection and serves the request in this way before the time is up. -/
def Serves (backend : Backend) (limit : Duration) (received : Forwarded) (service : Service) :
    Prop :=
  ∃ wait later, backend.connection = .after wait true ∧
    backend.serve received = .after later service ∧ wait + later ≤ limit

theorem Serves.connected {backend : Backend} {limit : Duration} {received : Forwarded}
    {service : Service} (h : backend.Serves limit received service) :
    backend.connection.InTime limit true := by
  obtain ⟨wait,later,hconnection,_,hlimit⟩ := h
  exact ⟨wait,hconnection,Duration.le_of_add_le hlimit⟩

theorem serves_listening (serve : Forwarded → Service) (limit : Duration) (received : Forwarded) :
    (listening serve).Serves limit received (serve received) :=
  ⟨0,0,rfl,rfl,Duration.zero_le limit⟩

end Backend

end RebasingProxy
