import RideHailing.Session.Effect
import RideHailing.Server.Selection

/-!
# The identity of a client

A request carries an unsigned 32-bit identifier.  The limiter and the service
both read it as a signed number: the limiter counts 1 to 1999, the service
treats everything up to 10 as a VIP.
-/

namespace RideHailing.Session

open RideHailing.Arithmetic
open RideHailing.Bytes
open RideHailing.Common
open RideHailing.Server

variable {id : UInt32} {isVip : Bool}

/-- The service with a given treatment: it decides on the rating tier of the
selection and on the surcharge. -/
def rideSectionAs (isVip : Bool) (draws : TargetDraws) (state : SharedState) :
    Option (SharedState × Option (Fin maxDrivers × ℚ)) :=
  (selectDriver isVip state).map (rideOutcome isVip draws state)

/-- Every request that carries the identifier gets this treatment, in every
state. -/
def TreatedAs (isVip : Bool) (id : UInt32) : Prop :=
  ∀ body : Region 1024, clientIdField body.bytes = id → ∀ draws state,
    rideCriticalSection (requestClientId body.bytes) draws state = rideSectionAs isVip draws state

/-- For every request that carries the identifier, the first critical section is the
limiter's, which counts it in an entry; the service is entered after it or not at
all. -/
def CountedFirst (id : UInt32) : Prop :=
  ∀ (γ : Type) (env : Env γ) (body : Region 1024) (sessionKey : CString) (world : World γ)
    (clientId : Int) (limited : Bool × World γ),
    clientIdField body.bytes = id → requestClientId body.bytes = clientId →
      limitRequest env clientId world = limited →
      (∃ slot, limiterSlot clientId = some slot ∧
        limited.2.shared = recordRequest slot (env.time world.outside).1 world.shared) ∧
      ∃ rest, stateOperations (exitWorld (processRideRequestWrapper env body sessionKey world)) =
          stateOperations world ++ .rateLimitCheck clientId limited.1 :: rest ∧
        (rest = [] ∨ limited.1 = false ∧ rest = [.rideRequest clientId])

/-- The identifier means the same to everyone: VIP treatment exactly for 1 to
10, and no VIP treatment without being counted. -/
structure OneMeaning (id : UInt32) : Prop where
  vip : 1 ≤ id.toNat ∧ id.toNat ≤ 10 → TreatedAs true id
  regular : ¬ (1 ≤ id.toNat ∧ id.toNat ≤ 10) → TreatedAs false id
  counted : TreatedAs true id → CountedFirst id

/-! ## What the service makes of an identifier -/

theorem requestClientId_eq {body : Region 1024} (carries : clientIdField body.bytes = id) :
    requestClientId body.bytes = wrap32 id.toNat := by
  rw [requestClientId, carries]

/-- The service treats a request by the sign and size of its identifier. -/
theorem treatedAs_isVipClient (id : UInt32) : TreatedAs (isVipClient (wrap32 id.toNat)) id := by
  intro body carries draws state
  rw [requestClientId_eq carries]
  exact rideCriticalSection_eq _ draws state

/-- A request buffer that starts with an identifier. -/
def bodyWith (id : UInt32) : Region 1024 :=
  (Region.zero 1024).write (toLittleEndian 4 id.toNat)

theorem clientIdField_bodyWith (id : UInt32) : clientIdField (bodyWith id).bytes = id := by
  have fits : id.toNat < 256 ^ 4 := id.toNat_lt
  have inside : (toLittleEndian 4 id.toNat).length ≤ 1024 := by
    rw [length_toLittleEndian]
    decide
  have read := field_toLittleEndian []
    ((Region.zero 1024).bytes.drop (toLittleEndian 4 id.toNat).length) fits
  rw [List.nil_append, List.length_nil] at read
  rw [clientIdField, bodyWith, Region.bytes_write _ inside, read, UInt32.ofNat_toNat]

/-- A single highly rated driver at the base, in smart mode. -/
def driverAtBase : SharedState :=
  { SharedState.zeroed with
    drivers := Function.update SharedState.zeroed.drivers 0
      { Driver.zeroed with
        lat := baseLat, lon := baseLon, isAvailable := true, fuel := 10, rating := 4.9 }
    driverCount := 1
    dispatchMode := 1 }

/-- The two treatments differ in the surcharge. -/
theorem TreatedAs.unique (first : TreatedAs true id) (second : TreatedAs false id) : False := by
  have same := (first (bodyWith id) (clientIdField_bodyWith id) ⟨1, 1⟩ driverAtBase).symm.trans
    (second (bodyWith id) (clientIdField_bodyWith id) ⟨1, 1⟩ driverAtBase)
  have revenue := congrArg (fun outcome => outcome.map fun result => result.1.totalRevenue) same
  exact absurd revenue (by decide +kernel)

/-- Whether an identifier is treated as a VIP is decided by its signed value. -/
theorem treatedAs_iff (isVip : Bool) (id : UInt32) :
    TreatedAs isVip id ↔ isVipClient (wrap32 id.toNat) = isVip := by
  constructor
  · intro treated
    have actual := treatedAs_isVipClient id
    cases vip : isVipClient (wrap32 id.toNat) with
    | true =>
        rw [vip] at actual
        cases isVip with
        | true => rfl
        | false => exact (actual.unique treated).elim
    | false =>
        rw [vip] at actual
        cases isVip with
        | true => exact (treated.unique actual).elim
        | false => rfl
  · rintro rfl
    exact treatedAs_isVipClient id

/-! ## The two halves of the range -/

theorem wrap32_of_lt (small : id.toNat < 2 ^ 31) : wrap32 id.toNat = id.toNat :=
  wrap32_eq_self (by omega) (by omega)

/-- The upper half of the range turns negative. -/
theorem wrap32_of_ge (large : 2 ^ 31 ≤ id.toNat) : wrap32 id.toNat < 0 := by
  have bounded : id.toNat < 2 ^ 32 := id.toNat_lt
  rw [wrap32, Int.bmod_def]
  norm_num
  omega

theorem isVipClient_of_lt (small : id.toNat < 2 ^ 31) :
    isVipClient (wrap32 id.toNat) = true ↔ id.toNat ≤ 10 := by
  rw [wrap32_of_lt small, isVipClient, decide_eq_true_iff]
  omega

theorem isVipClient_of_ge (large : 2 ^ 31 ≤ id.toNat) : isVipClient (wrap32 id.toNat) = true := by
  have negative := wrap32_of_ge large
  rw [isVipClient, decide_eq_true_iff]
  omega

/-- The identifiers that the limiter has an entry for are counted. -/
theorem countedFirst_of_range (positive : 1 ≤ id.toNat) (small : id.toNat ≤ 1999) :
    CountedFirst id := by
  intro γ env body sessionKey world clientId limited carries asks limits
  have signed := requestClientId_eq carries
  rw [asks, wrap32_of_lt (by omega)] at signed
  obtain ⟨slot, entry, _⟩ :
      ∃ slot, limiterSlot clientId = some slot ∧ (slot.val : Int) = clientId :=
    exists_limiterSlot (by omega) (by omega)
  have effects := processRideRequestWrapper_effect env body sessionKey world
  rw [asks, limits] at effects
  refine ⟨⟨slot, entry, ?_⟩, ?_⟩
  · rw [← limits, limitRequest_shared, checkAndUpdateRateLimit, entry]
  · obtain ⟨rest, ⟨recorded, effect⟩, _⟩ := effects
    refine ⟨rest, recorded, ?_⟩
    generalize limited.1 = blocked at effect
    cases effect with
    | blocked | faulted => exact Or.inl rfl
    | served => exact Or.inr ⟨rfl, rfl⟩

/-- An identifier has one meaning exactly when it is positive as the signed
number that the limiter and the service make of it. -/
theorem oneMeaning_iff (id : UInt32) : OneMeaning id ↔ 1 ≤ id.toNat ∧ id.toNat < 2 ^ 31 := by
  constructor
  · intro meaning
    by_contra outside
    have notListed : ¬ (1 ≤ id.toNat ∧ id.toNat ≤ 10) := by omega
    have regular := (treatedAs_iff false id).mp (meaning.regular notListed)
    have vip : isVipClient (wrap32 id.toNat) = true := by
      by_cases small : id.toNat < 2 ^ 31
      · rw [isVipClient_of_lt small]
        omega
      · exact isVipClient_of_ge (Nat.le_of_not_lt small)
    rw [vip] at regular
    cases regular
  · rintro ⟨positive, small⟩
    constructor
    · rintro ⟨_, listed⟩
      exact (treatedAs_iff true id).mpr ((isVipClient_of_lt small).mpr listed)
    · intro notListed
      rw [treatedAs_iff, Bool.eq_false_iff, ne_eq, isVipClient_of_lt small]
      omega
    · intro treated
      have listed := (isVipClient_of_lt small).mp ((treatedAs_iff true id).mp treated)
      exact countedFirst_of_range positive (by omega)

/-- Identifier 0 and the upper half of the range are treated as VIPs, and the
limiter lets them pass uncounted. -/
theorem oneMeaning_zero :
    ¬ OneMeaning 0 ∧ TreatedAs true 0 ∧ limiterSlot (requestClientId (bodyWith 0).bytes) = none ∧
      ¬ OneMeaning 0x80000000 ∧ TreatedAs true 0x80000000 := by
  have zero : TreatedAs true 0 := (treatedAs_iff true 0).mpr (by decide)
  have large : TreatedAs true 0x80000000 := (treatedAs_iff true _).mpr (by decide)
  refine ⟨fun meaning => zero.unique (meaning.regular (by decide)), zero, ?_,
    fun meaning => large.unique (meaning.regular (by decide)), large⟩
  rw [requestClientId_eq (clientIdField_bodyWith 0)]
  decide

end RideHailing.Session
