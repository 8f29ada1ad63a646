import Fuatilia.Backend.Callbacks

/-!
# The money of a push

The result of a push is delivered until it is acknowledged, and a delivery may die after any call. A
delivery that finds the journey claimed but the push still open runs the settlement again. But the
settlement stops at a payment that is there already: a delivery that died between its intake and its
confirmation leaves a payment that no later delivery confirms.

## Main definitions

* `StkConfirmed` — the payment of the checkout is confirmed for the amount of the callback.
* `Pays`, `NewCheckout`, `Undisturbed` — the money, the start and the runs that are spoken about.
* `RunsToEnd` — a delivery of the callback ends by a call of its own.
* `Sound`, `Underway`, `Settling` — the invariant of the tables, of a delivery, of the whole rail.

## Main results

* `taken_of_end` — a delivery that is not killed leaves the payment there.
* `settling_of_step` — every event of an undisturbed run keeps the invariant.
* `stk_money_confirmed` — in an undisturbed run a delivery that is not killed settles the payment.

## Implementation notes

The runs may hold any other callbacks: C2B confirmations and results of other pushes. No other
callback of the organisation has the receipt: the external reference of a payment is unique over all
channels, so every intake of the callback would be refused.
-/

namespace Fuatilia.Backend

open Machine Processes

/-! ## What is to be shown -/

section

variable (cb : StkCallback) (push : StkInitiationRow)

/-- The payment of the checkout is confirmed for the amount of the callback. -/
def StkConfirmed (w : World) : Prop :=
  ∃ p ∈ w.payments, p.orgID = push.orgID ∧
    p.idempotencyKey = paymentIdempotencyKey cb.checkoutRequestID ∧
    p.state = .confirmed ∧ p.confirmedMinor = some cb.paidMinor
  deriving Decidable

def Ours (o : Origin) : Prop :=
  o.orgID = push.orgID ∧ o.idempotencyKey = paymentIdempotencyKey cb.checkoutRequestID

/-- A payment of the organisation has the reference of the callback, whatever its channel. -/
def SameReference (o : Origin) : Prop :=
  o.orgID = push.orgID ∧ o.externalRef = cb.receiptNumberOrCheckout

def SameKey (k : KeyRow) : Prop :=
  k.orgID = push.orgID ∧ k.key = paymentIdempotencyKey cb.checkoutRequestID

def Taken (w : World) : Prop := ∃ o ∈ w.origins, Ours cb push o

/-- The payment of the checkout waits for its confirmation. -/
def Owed (w : World) : Prop := ∃ p ∈ w.payments, Ours cb push p.origin ∧ p.state = .initiated

/-- The callback reports the money that the push asked for. -/
structure Pays : Prop where
  success : cb.success = true
  amount : cb.paidMinor = push.requestedMinor
  positive : 0 < push.requestedMinor

/-- Nothing is known of the checkout but its push, which is open. In particular no payment of the
organisation, through whatever channel, holds the receipt. -/
structure NewCheckout (s : Rail) : Prop where
  found : stkInitiationByCheckout s.tables cb.checkoutRequestID = some push
  opened : push.state = .initiated
  ids : (s.tables.origins.map Origin.id).Nodup
  payments : ∀ o ∈ s.tables.origins, ¬ Ours cb push o ∧ ¬ SameReference cb push o
  keys : ∀ k ∈ s.tables.keys ++ s.tables.replays, ¬ SameKey cb push k
  journeys : ∀ j ∈ s.tables.journeys, j.journeyKey ≠ cb.journeyKey

/-- Another callback is of another checkout and has another reference. -/
def Fair (cb' : StkCallback) : Prop :=
  cb' = cb ∨ cb'.checkoutRequestID ≠ cb.checkoutRequestID ∧
    cb'.receiptNumberOrCheckout ≠ cb.receiptNumberOrCheckout
  deriving Decidable

/-- A customer's own payment to the organisation has another reference. -/
def OtherReference (org : Uuid) (c2b : C2bCallback) : Prop :=
  org = push.orgID → c2b.transID ≠ cb.receiptNumberOrCheckout
  deriving Decidable

/-- The callback that the delivery confirms next, and the one that it takes in next with the
identifier that it mints for the payment. -/
def Delivery.bearing : Delivery → Option StkCallback
  | .stkIntaken cb _ _ => some cb
  | _ => none

def Delivery.minting : Delivery → Option (StkCallback × Uuid)
  | .stkChecked cb id _ => some (cb, id)
  | _ => none

/-- The delivery has made the payment of the callback and confirms it next. -/
def Bears (d : Delivery) : Prop := d.bearing = some cb
  deriving Decidable

/-- If the next call of the delivery is the intake of the callback, the identifier that it mints is
that of no payment. -/
def MintsNew (w : World) (d : Delivery) : Prop :=
  ∀ x ∈ d.minting, x.1 = cb → ∀ p ∈ w.payments, p.id ≠ x.2
  deriving Decidable

/-- No delivery of the callback dies between its intake and its confirmation, none mints the
identifier of another payment, and other callbacks are of other pushes and references. -/
def Undisturbed (s : Processes.State Rail Delivery) : Processes.Event RailRequest → Prop
  | .begin (.stk cb' _) => Fair cb cb'
  | .begin (.c2b org c2b _) => OtherReference cb push org c2b
  | .begin .restart => True
  | .advance i => s.alive[i]?.all fun d => MintsNew cb s.world.tables d
  | .kill i => s.alive[i]?.all fun d => ¬ Bears cb d

instance (s : Processes.State Rail Delivery) (e : Processes.Event RailRequest) :
    Decidable (Undisturbed cb push s e) :=
  match e with
  | .begin (.stk cb' _) => inferInstanceAs (Decidable (Fair cb cb'))
  | .begin (.c2b org c2b _) => inferInstanceAs (Decidable (OtherReference cb push org c2b))
  | .begin .restart => inferInstanceAs (Decidable True)
  | .advance i => inferInstanceAs (Decidable (s.alive[i]?.all _ = true))
  | .kill i => inferInstanceAs (Decidable (s.alive[i]?.all _ = true))

end

def Delivery.stkCallback : Delivery → Option StkCallback
  | .stkPosted cb _ | .stkRouted cb _ _ | .stkDuplicate cb _ _ | .stkClaimed cb _ _
  | .stkChecked cb _ _ | .stkIntaken cb _ _ | .stkSettled cb _ _ => some cb
  | .c2bPosted .. | .c2bClaimed .. | .c2bIntaken .. | .restarting => none

/-- At some point of the run a delivery of the callback ends, and not because it is killed: its call
leaves nothing to be done, or was refused. -/
def RunsToEnd (cb : StkCallback) (s : Processes.State Rail Delivery)
    (events : List (Processes.Event RailRequest)) : Prop :=
  ∃ before i after, events = before ++ .advance i :: after ∧
    let s' := run (Processes.step rail) s before
    ∃ d, s'.alive[i]? = some d ∧ d.stkCallback = some cb ∧ (advance s'.world d).2 = none

/-! ## The invariant -/

/-- A row of the push, in whatever state. -/
def IsPush (push row : StkInitiationRow) : Prop := ∃ state, row = { push with state }

/-- The invariant of the tables. What the key and the reference of the callback find is the payment
of the checkout, which has the money of the push and waits or is confirmed. -/
structure Sound (cb : StkCallback) (push : StkInitiationRow) (w : World) : Prop where
  ids : (w.origins.map Origin.id).Nodup
  unique : ∀ o ∈ w.origins, ∀ o' ∈ w.origins, Ours cb push o → Ours cb push o' → o.id = o'.id
  money : ∀ p ∈ w.payments, Ours cb push p.origin →
    (p.requestedMinor = cb.paidMinor ∧ p.currency = push.currency) ∧
    (p.state = .initiated ∨ p.state = .confirmed ∧ p.confirmedMinor = some cb.paidMinor)
  reference : ∀ o ∈ w.origins, SameReference cb push o → Ours cb push o
  keys : ∀ k ∈ w.keys ++ w.replays, SameKey cb push k →
    ∃ o ∈ w.origins, Ours cb push o ∧ o.id = k.outcomeRef
  journeys : ∀ j ∈ w.journeys, j.journeyKey = cb.journeyKey → j.amountMinor = push.requestedMinor
  push : ∃ row, stkInitiationByCheckout w cb.checkoutRequestID = some row ∧ IsPush push row ∧
    (row.state ≠ .initiated → StkConfirmed cb push w)

def Holding (w : World) (orgID id : Uuid) (amountMinor : ℤ) (P : Origin → Prop) : Prop :=
  ∃ o ∈ w.origins, o.orgID = orgID ∧ o.id = id ∧ o.requestedMinor = amountMinor ∧ P o

/-- The invariant of a delivery: what it read is still so, and what it did is there. -/
def Underway (cb : StkCallback) (push : StkInitiationRow) (w : World) : Delivery → Prop
  | .c2bPosted org c2b _ | .c2bClaimed org c2b _ => OtherReference cb push org c2b
  | .c2bIntaken org cb' id => Holding w org id cb'.amountMinor fun _ => True
  | .stkPosted cb' _ => Fair cb cb'
  | .stkRouted cb' _ row | .stkDuplicate cb' _ row | .stkClaimed cb' _ row
  | .stkChecked cb' _ row => Fair cb cb' ∧ (cb' = cb → IsPush push row)
  | .stkIntaken cb' row id =>
    (Fair cb cb' ∧ (cb' = cb → IsPush push row)) ∧
      Holding w row.orgID id row.requestedMinor fun o =>
        o.idempotencyKey = paymentIdempotencyKey cb'.checkoutRequestID ∧ o.currency = row.currency
  | .stkSettled cb' _ _ => Fair cb cb' ∧ (cb' = cb → StkConfirmed cb push w)
  | .restarting => True

variable {cb : StkCallback} {push : StkInitiationRow} {s : Rail} {w w' : World}

lemma NewCheckout.sound (h : NewCheckout cb push s) : Sound cb push s.tables where
  ids := h.ids
  unique o ho _ _ hours := absurd hours (h.payments o ho).1
  money p hp hours := absurd hours (h.payments p.origin (List.mem_map_of_mem hp)).1
  reference o ho hsame := absurd hsame (h.payments o ho).2
  keys k hk hsame := absurd hsame (h.keys k hk)
  journeys j hj hkey := absurd hkey (h.journeys j hj)
  push := ⟨push, h.found, ⟨push.state, rfl⟩, fun hne => absurd h.opened hne⟩

lemma Sound.origin_eq (hs : Sound cb push w) {o o' : Origin} (ho : o ∈ w.origins)
    (ho' : o' ∈ w.origins) (hid : o.id = o'.id) : o = o' :=
  List.inj_on_of_nodup_map hs.ids ho ho' hid

lemma Sound.row_eq (hs : Sound cb push w) {p p' : PaymentRow} (hp : p ∈ w.payments)
    (hp' : p' ∈ w.payments) (hid : p.id = p'.id) : p = p' := by
  have hids := hs.ids
  rw [World.origins, List.map_map] at hids
  exact List.inj_on_of_nodup_map hids hp hp' hid

lemma Sound.not_owed_of_confirmed (hs : Sound cb push w) (h : StkConfirmed cb push w) :
    ¬ Owed cb push w := by
  rintro ⟨q, hq, hours, hwaits⟩
  obtain ⟨p, hp, horg, hkey, hstate, -⟩ := h
  have hid := hs.unique _ (List.mem_map_of_mem hp) _ (List.mem_map_of_mem hq) ⟨horg, hkey⟩ hours
  rw [hs.row_eq hp hq hid, hwaits] at hstate
  cases hstate

lemma StkConfirmed.taken (h : StkConfirmed cb push w) : Taken cb push w := by
  obtain ⟨p, hp, horg, hkey, -⟩ := h
  exact ⟨p.origin, List.mem_map_of_mem hp, horg, hkey⟩

/-! ## What the calls keep -/

/-- A change of the tables that keeps the invariant, the payments that there are and the
confirmation of the checkout. -/
structure Keeps (cb : StkCallback) (push : StkInitiationRow) (w w' : World) : Prop where
  sound : Sound cb push w'
  origins : ∀ o ∈ w.origins, o ∈ w'.origins
  confirmed : StkConfirmed cb push w → StkConfirmed cb push w'

lemma Keeps.taken (h : Keeps cb push w w') (htaken : Taken cb push w) : Taken cb push w' := by
  obtain ⟨o, ho, hours⟩ := htaken
  exact ⟨o, h.origins o ho, hours⟩

/-- A change that touches no origin, no journey and no push keeps the invariant, if the payment of
the checkout still waits or is confirmed for its money and its key still finds it. -/
lemma Sound.keeps_of_origins (hs : Sound cb push w) (horigins : w'.origins = w.origins)
    (hframe : w'.journeys = w.journeys ∧ w'.initiations = w.initiations)
    (hstate : ∀ p ∈ w'.payments, Ours cb push p.origin →
      p.state = .initiated ∨ p.state = .confirmed ∧ p.confirmedMinor = some cb.paidMinor)
    (hkeys : ∀ k ∈ w'.keys ++ w'.replays, SameKey cb push k →
      ∃ o ∈ w.origins, Ours cb push o ∧ o.id = k.outcomeRef)
    (hconfirmed : StkConfirmed cb push w → StkConfirmed cb push w') : Keeps cb push w w' := by
  refine ⟨⟨horigins ▸ hs.ids, horigins ▸ hs.unique, fun p hp hours => ⟨?_, hstate p hp hours⟩,
    horigins ▸ hs.reference, horigins ▸ hkeys, hframe.1 ▸ hs.journeys, ?_⟩,
    fun o ho => horigins ▸ ho, hconfirmed⟩
  · -- its money is that of its origin, which was there before
    obtain ⟨q, hq, heq⟩ :=
      List.mem_map.mp (horigins ▸ List.mem_map_of_mem hp : p.origin ∈ w.origins)
    have hmoney := (hs.money q hq (heq ▸ hours)).1
    exact ⟨(congrArg Origin.requestedMinor heq).symm.trans hmoney.1,
      (congrArg Origin.currency heq).symm.trans hmoney.2⟩
  · obtain ⟨row, hrow, hpush, hsettled⟩ := hs.push
    exact ⟨row, by rw [stkInitiationByCheckout, hframe.2]; exact hrow, hpush,
      fun hne => hconfirmed (hsettled hne)⟩

lemma Sound.keeps_of_payments (hs : Sound cb push w) (hpayments : w'.payments = w.payments)
    (hframe : w'.journeys = w.journeys ∧ w'.initiations = w.initiations)
    (hkeys : ∀ k ∈ w'.keys ++ w'.replays, SameKey cb push k →
      ∃ o ∈ w.origins, Ours cb push o ∧ o.id = k.outcomeRef) : Keeps cb push w w' :=
  hs.keeps_of_origins (by rw [World.origins, hpayments, World.origins]) hframe
    (hpayments ▸ fun p hp hours => (hs.money p hp hours).2) hkeys
    (by rw [StkConfirmed, StkConfirmed, hpayments]; exact id)

lemma Sound.keeps_self (hs : Sound cb push w) : Keeps cb push w w :=
  ⟨hs, fun _ ho => ho, fun h => h⟩

lemma Sound.keeps_of_journey (hs : Sound cb push w) {new : JourneyRow}
    (hnew : new.journeyKey = cb.journeyKey → new.amountMinor = push.requestedMinor) :
    Keeps cb push w { w with journeys := w.journeys ++ [new] } :=
  ⟨⟨hs.ids, hs.unique, hs.money, hs.reference, hs.keys, Lists.forall_mem_concat hs.journeys hnew,
    hs.push⟩, fun _ ho => ho, fun h => h⟩

variable {new : KeyRow} {p prior : PaymentRow} {P : Origin → Prop} {row : StkInitiationRow}
  {r : IntakeResult}

lemma mem_bindKey {rows : List KeyRow} {row : KeyRow} (h : row ∈ bindKey rows new) :
    row ∈ rows ∨ row = new := by
  rw [bindKey] at h
  split_ifs at h with hbound
  · exact .inl h
  · simpa using h

lemma mem_claimKey {row : KeyRow} (h : row ∈ (w.claimKey new).keys ++ (w.claimKey new).replays) :
    row ∈ w.keys ++ w.replays ∨ row = new := by
  rcases List.mem_append.mp h with h | h
  · exact (mem_bindKey h).imp_left (List.mem_append_left _)
  · exact (mem_bindKey h).imp_left (List.mem_append_right _)

variable {cmd : IntakeCommand} {id org : Uuid} {amountMinor : ℤ} {currency : String}

lemma Sound.keeps_of_fresh (hs : Sound cb push w) (hfree : ¬ UniqueViolation w (cmd.row org id))
    (hmoney : Ours cb push (cmd.row org id).origin →
      cmd.amountMinor = cb.paidMinor ∧ cmd.currency = push.currency)
    (href : SameReference cb push (cmd.row org id).origin → Ours cb push (cmd.row org id).origin) :
    Keeps cb push w { w.claimKey ⟨org, trim cmd.idempotencyKey, id⟩ with
      payments := w.payments ++ [cmd.row org id] } := by
  set new := cmd.row org id with hnew
  have horigins : ∀ o, o ∈ (w.payments ++ [new]).map PaymentRow.origin ↔
      o ∈ w.origins ∨ o = new.origin := by simp [World.origins]
  -- no payment before shares the identifier, or the key in the organisation
  have hid : ∀ o ∈ w.origins, o.id ≠ new.id := by
    intro o ho heq
    obtain ⟨p, hp, rfl⟩ := List.mem_map.mp ho
    exact hfree ⟨p, hp, .inl heq⟩
  have hours : ∀ o ∈ w.origins, Ours cb push o → ¬ Ours cb push new.origin := by
    intro o ho hold hours
    obtain ⟨p, hp, rfl⟩ := List.mem_map.mp ho
    exact hfree ⟨p, hp, .inr ⟨hold.1.trans hours.1.symm, .inr (hold.2.trans hours.2.symm)⟩⟩
  have hconfirmed : ∀ {u : World}, u.payments = w.payments ++ [new] → StkConfirmed cb push w →
      StkConfirmed cb push u := by
    rintro u hu ⟨p, hp, hrest⟩
    exact ⟨p, hu ▸ List.mem_append_left _ hp, hrest⟩
  refine ⟨⟨?_, ?_, ?_, ?_, ?_, hs.journeys, ?_⟩, fun o ho => (horigins o).mpr (.inl ho),
    hconfirmed rfl⟩
  · show (((w.payments ++ [new]).map PaymentRow.origin).map Origin.id).Nodup
    rw [List.map_append]
    exact Lists.nodup_map_concat hs.ids fun hi =>
      (List.mem_map.mp hi).elim fun o ho => hid o ho.1 ho.2
  · intro o ho o' ho' h h'
    rcases (horigins o).mp ho with ho | rfl <;> rcases (horigins o').mp ho' with ho' | rfl
    · exact hs.unique o ho o' ho' h h'
    · exact absurd h' (hours o ho h)
    · exact absurd h (hours o' ho' h')
    · rfl
  · intro p hp h
    rcases Lists.mem_concat hp with hp | rfl
    · exact hs.money p hp h
    · exact ⟨hmoney h, .inl rfl⟩
  · intro o ho hsame
    rcases (horigins o).mp ho with hold | rfl
    · exact hs.reference o hold hsame
    · exact href hsame
  · intro k hk hsame
    rcases mem_claimKey hk with hold | rfl
    · obtain ⟨o, ho, hrest⟩ := hs.keys k hold hsame
      exact ⟨o, (horigins o).mpr (.inl ho), hrest⟩
    · exact ⟨new.origin, (horigins _).mpr (.inr rfl), hsame, rfl⟩
  · obtain ⟨row, hrow, hpush, hstate⟩ := hs.push
    exact ⟨row, hrow, hpush, fun hne => hconfirmed rfl (hstate hne)⟩

lemma mem_confirmPayment (h : p ∈ (w.confirmPayment org id amountMinor).payments) :
    p ∈ w.payments ∧ ¬ (p.orgID = org ∧ p.id = id) ∨
      ∃ q ∈ w.payments, q.orgID = org ∧ q.id = id ∧ p = q.confirmedFor amountMinor := by
  obtain ⟨q, hq, rfl⟩ := List.mem_map.mp h
  by_cases htarget : q.orgID = org ∧ q.id = id
  · exact .inr ⟨q, hq, htarget.1, htarget.2, if_pos htarget⟩
  · rw [if_neg htarget]
    exact .inl ⟨hq, htarget⟩

lemma Sound.keeps_of_confirm (hs : Sound cb push w) {r : ConfirmResult}
    (hheld : Holding w org id amountMinor P)
    (h : confirm w org id amountMinor currency = .ok (w', r)) : Keeps cb push w w' := by
  have horigins := (confirm_frame h).1
  obtain ⟨-, -, -, ⟨-, -, rfl, -⟩ | ⟨-, rfl, -⟩⟩ := confirm_cases h
  · exact hs.keeps_self
  -- the payment of the checkout is confirmed for what it was made for
  have hamount : ∀ p ∈ w.payments, p.id = id → Ours cb push p.origin →
      amountMinor = cb.paidMinor := by
    intro p hp hid hours
    obtain ⟨o, ho, -, hoid, hreq, -⟩ := hheld
    have heq : p.origin = o := hs.origin_eq (List.mem_map_of_mem hp) ho (hid.trans hoid.symm)
    calc amountMinor = o.requestedMinor := hreq.symm
      _ = p.requestedMinor := by rw [← heq]; rfl
      _ = cb.paidMinor := (hs.money p hp hours).1.1
  have hconfirmed : StkConfirmed cb push w →
      StkConfirmed cb push (w.confirmPayment org id amountMinor) := by
    rintro ⟨p, hp, horg, hkey, hstate, hminor⟩
    refine ⟨_, List.mem_map_of_mem hp, ?_⟩
    by_cases htarget : p.orgID = org ∧ p.id = id
    · rw [if_pos htarget]
      exact ⟨horg, hkey, rfl, by rw [← hamount p hp htarget.2 ⟨horg, hkey⟩]; rfl⟩
    · rw [if_neg htarget]
      exact ⟨horg, hkey, hstate, hminor⟩
  refine hs.keeps_of_origins horigins ⟨rfl, rfl⟩ (fun p hp hours => ?_) hs.keys hconfirmed
  rcases mem_confirmPayment hp with ⟨hold, -⟩ | ⟨q, hq, -, hid, rfl⟩
  · exact (hs.money p hold hours).2
  · exact .inr ⟨rfl, by rw [← hamount q hq hid hours]; rfl⟩

lemma Sound.keeps_of_fail (hs : Sound cb push w)
    (hheld : Holding w org id amountMinor P) (hother : ∀ o, P o → ¬ Ours cb push o) :
    Keeps cb push w (failPayment w org id) := by
  have hconfirmed : StkConfirmed cb push w → StkConfirmed cb push (failPayment w org id) := by
    rintro ⟨p, hp, hrest⟩
    refine ⟨_, List.mem_map_of_mem hp, ?_⟩
    rw [if_neg (by simp [hrest.2.2.1])]
    exact hrest
  refine hs.keeps_of_origins (origins_failPayment w org id) ⟨rfl, rfl⟩ (fun p hp hours => ?_)
    hs.keys hconfirmed
  obtain ⟨q, hq, rfl⟩ := List.mem_map.mp hp
  split_ifs at hours ⊢ with htarget
  · obtain ⟨o, ho, -, hoid, -, hP⟩ := hheld
    have heq : q.origin = o :=
      hs.origin_eq (List.mem_map_of_mem hq) ho (htarget.2.1.trans hoid.symm)
    exact absurd hours (hother q.origin (heq ▸ hP))
  · exact (hs.money q hq hours).2

lemma stkInitiationByCheckout_resolve (w : World) (org : Uuid) (resolved checkout : String)
    (state : StkState) :
    stkInitiationByCheckout (resolveStkInitiation w org resolved state) checkout =
      (stkInitiationByCheckout w checkout).map fun row =>
        if row.orgID = org ∧ row.checkoutRequestID = resolved ∧ row.state = .initiated
        then { row with state } else row := by
  rw [stkInitiationByCheckout, resolveStkInitiation, List.find?_map, stkInitiationByCheckout]
  congr 2
  funext row
  show decide (StkInitiationRow.checkoutRequestID (if _ then _ else _) = checkout) = _
  split_ifs <;> rfl

lemma Sound.keeps_of_resolve (hs : Sound cb push w) {resolved : String} {state : StkState}
    (hresolved : resolved = cb.checkoutRequestID → StkConfirmed cb push w) :
    Keeps cb push w (resolveStkInitiation w org resolved state) := by
  refine ⟨⟨hs.ids, hs.unique, hs.money, hs.reference, hs.keys, hs.journeys, ?_⟩, fun o ho => ho,
    fun h => h⟩
  obtain ⟨row, hrow, ⟨old, hpush⟩, hstate⟩ := hs.push
  obtain ⟨-, hcheckout⟩ := Fallible.of_find hrow
  rw [stkInitiationByCheckout_resolve, hrow]
  refine ⟨_, rfl, ?_, ?_⟩ <;> beta_reduce
  · split_ifs
    · exact ⟨state, by rw [hpush]⟩
    · exact ⟨old, hpush⟩
  · split_ifs with htarget
    · exact fun _ => hresolved (htarget.2.1.symm.trans hcheckout)
    · exact hstate

/-! ## One call -/

lemma holding_of_found (h : FoundPrior w org cmd prior) :
    prior ∈ w.payments ∧ prior.orgID = org := by
  rcases h with hkeyed | hfound
  · obtain ⟨ref, -, hprior⟩ := Option.bind_eq_some_iff.mp hkeyed
    exact ⟨(paymentByID_eq_some hprior).1, (paymentByID_eq_some hprior).2.1⟩
  · exact ⟨(findPriorPayment_eq_some hfound).1, (findPriorPayment_eq_some hfound).2.1⟩

/-- What an intake of the callback finds is the payment of the checkout. -/
lemma Sound.ours_of_found (hs : Sound cb push w)
    (h : FoundPrior w push.orgID (stkIntakeCommand cb row) prior) : Ours cb push prior.origin := by
  have hkey : trim (stkIntakeCommand cb row).idempotencyKey =
      paymentIdempotencyKey cb.checkoutRequestID := cb.trim_paymentKey
  have href : trim (stkIntakeCommand cb row).externalRef = cb.receiptNumberOrCheckout :=
    cb.trim_reference
  have hprior : prior.origin ∈ w.origins := List.mem_map_of_mem (holding_of_found h).1
  rw [FoundPrior, hkey, href] at h
  rcases h with hkeyed | hfound
  · obtain ⟨ref, hlookup, hid⟩ := Option.bind_eq_some_iff.mp hkeyed
    obtain ⟨k, hk, rfl⟩ := Option.map_eq_some_iff.mp hlookup
    have hbound : k ∈ w.keys ++ w.replays ∧ SameKey cb push k := by
      rcases Option.or_eq_some_iff.mp hk with hk | ⟨-, hk⟩
      · obtain ⟨hmem, hfound⟩ := Fallible.of_find hk
        exact ⟨List.mem_append_right _ hmem, hfound⟩
      · obtain ⟨hmem, hfound⟩ := Fallible.of_find hk
        exact ⟨List.mem_append_left _ hmem, hfound⟩
    obtain ⟨o, ho, hours, hoid⟩ := hs.keys k hbound.1 hbound.2
    rwa [hs.origin_eq hprior ho ((paymentByID_eq_some hid).2.2.trans hoid.symm)]
  · obtain ⟨-, horg, hsame | hkeyed⟩ := findPriorPayment_eq_some hfound
    · exact hs.reference _ hprior ⟨horg, hsame.2⟩
    · exact ⟨horg, hkeyed⟩

lemma Sound.keeps_of_other (hs : Sound cb push w)
    (hkey : trim cmd.idempotencyKey ≠ paymentIdempotencyKey cb.checkoutRequestID)
    (href : ¬ SameReference cb push (cmd.row org id).origin)
    (h : intake w org cmd id = .ok (w', r)) : Keeps cb push w w' := by
  rcases intake_cases h with ⟨-, hfree, rfl⟩ | ⟨prior, -, -, -, -, rfl | rfl⟩
  · exact hs.keeps_of_fresh hfree (fun hours => absurd hours.2 hkey) fun h => absurd h href
  · exact hs.keeps_self
  · refine hs.keeps_of_payments rfl ⟨rfl, rfl⟩ fun k hk hsame => ?_
    rcases mem_claimKey hk with hold | rfl
    · exact hs.keys k hold hsame
    · exact absurd hsame.2 hkey

lemma Sound.keeps_of_c2b (hs : Sound cb push w) {c2b : C2bCallback}
    (hother : OtherReference cb push org c2b)
    (h : intake w org (c2bIntakeCommand c2b) id = .ok (w', r)) : Keeps cb push w w' := by
  have hkey : trim (c2bIntakeCommand c2b).idempotencyKey = c2bPaymentKey c2b.transID :=
    c2b.trim_paymentKey
  refine hs.keeps_of_other ?_ (fun href => ?_) h
  · rw [hkey]
    exact c2bPaymentKey_ne _ _
  · exact hother href.1 (c2b.trim_transID.symm.trans href.2)

lemma Sound.keeps_of_stk (hpays : Pays cb push) (hs : Sound cb push w) {cb' : StkCallback}
    (hfair : Fair cb cb') (hown : cb' = cb → IsPush push row)
    (h : intake w row.orgID (stkIntakeCommand cb' row) id = .ok (w', r)) : Keeps cb push w w' := by
  have hkey : trim (stkIntakeCommand cb' row).idempotencyKey =
      paymentIdempotencyKey cb'.checkoutRequestID := cb'.trim_paymentKey
  rcases hfair with rfl | ⟨hcheckout, href⟩
  · obtain ⟨state, rfl⟩ := hown rfl
    rcases intake_cases h with ⟨-, hfree, rfl⟩ | ⟨prior, -, hfound, -, -, rfl | rfl⟩
    · exact hs.keeps_of_fresh hfree (fun _ => ⟨hpays.amount.symm, rfl⟩) fun _ => ⟨rfl, hkey⟩
    · exact hs.keeps_self
    · refine hs.keeps_of_payments rfl ⟨rfl, rfl⟩ fun k hk hsame => ?_
      rcases mem_claimKey hk with hold | rfl
      · exact hs.keys k hold hsame
      · exact ⟨prior.origin, List.mem_map_of_mem (holding_of_found hfound).1,
          hs.ours_of_found hfound, rfl⟩
  · refine hs.keeps_of_other ?_ (fun hsame => ?_) h
    · rw [hkey]
      exact fun heq => hcheckout (paymentIdempotencyKey_injective heq)
    · exact href (cb'.trim_reference.symm.trans hsame.2)

variable {d q : Delivery} {x : Rail × Option Delivery}

lemma Call.keeps (hpays : Pays cb push) (h : Call s d x) (hs : Sound cb push s.tables)
    (hd : Underway cb push s.tables d) : Keeps cb push s.tables x.1.tables := by
  cases h with
  | @c2bClaim _ c2b _ _ _ h =>
    rcases intakeCallback_cases h with ⟨-, -, rfl⟩ | ⟨-, rfl, -⟩
    · exact hs.keeps_of_journey fun hkey => absurd hkey (c2b.journeyKey_ne cb)
    · exact hs.keeps_self
  | stkClaim h =>
    rcases intakeCallback_cases h with ⟨-, -, rfl⟩ | ⟨-, rfl, -⟩
    · refine hs.keeps_of_journey fun hkey => ?_
      rcases hd.1 with rfl | ⟨hne, -⟩
      · obtain ⟨state, rfl⟩ := hd.2 rfl
        rfl
      · exact absurd (StkCallback.journeyKey_injective hkey) hne
    · exact hs.keeps_self
  | c2bIntake h => exact hs.keeps_of_c2b hd h
  | c2bConfirm h => exact hs.keeps_of_confirm hd h
  | stkAckDuplicate h | stkIntake h => exact hs.keeps_of_stk hpays hd.1 hd.2 h
  | stkConfirm _ h => exact hs.keeps_of_confirm hd.2 h
  | @stkFail cb' row id hfailure =>
    obtain ⟨⟨hfair, -⟩, hheld⟩ := hd
    refine hs.keeps_of_fail hheld fun o ho hours => ?_
    rcases hfair with rfl | ⟨hcheckout, -⟩
    · exact absurd hpays.success (by simp [hfailure])
    · exact hcheckout (paymentIdempotencyKey_injective (ho.1.symm.trans hours.2))
  | @stkResolve cb' row id =>
    refine hs.keeps_of_resolve fun hcheckout => ?_
    rcases hd.1 with rfl | ⟨hne, -⟩
    · exact hd.2 rfl
    · exact absurd hcheckout hne
  | restart =>
    exact hs.keeps_of_payments rfl ⟨rfl, rfl⟩ fun k hk =>
      hs.keys k (List.mem_append_left _ (by simpa using hk))
  | stkRoute | stkAckSettled | stkRecover | stkCheck => exact hs.keeps_self

lemma checkStkResult_eq_ok (h : checkStkResult w org cb = .ok row) :
    stkInitiationByCheckout w cb.checkoutRequestID = some row := by
  rw [checkStkResult] at h
  split at h
  · cases h
  · rename_i initiation hrow
    simp only [Fallible.bind_eq_ok, Fallible.guard_eq_ok, Fallible.pure_eq_ok] at h
    obtain ⟨-, -, -, rfl⟩ := h
    exact hrow

lemma Keeps.underway (h : Keeps cb push w w') (hq : Underway cb push w q) :
    Underway cb push w' q := by
  have hholding : ∀ {org id : Uuid} {amount : ℤ} {P : Origin → Prop}, Holding w org id amount P →
      Holding w' org id amount P := fun ⟨o, ho, hrest⟩ => ⟨o, h.origins o ho, hrest⟩
  cases q with
  | c2bIntaken => exact hholding hq
  | stkIntaken => exact ⟨hq.1, hholding hq.2⟩
  | stkSettled => exact ⟨hq.1, fun heq => h.confirmed (hq.2 heq)⟩
  | c2bPosted | c2bClaimed | stkPosted | stkRouted | stkDuplicate | stkClaimed | stkChecked
  | restarting => exact hq

lemma Sound.isPush (hs : Sound cb push w)
    (h : stkInitiationByCheckout w cb.checkoutRequestID = some row) : IsPush push row := by
  obtain ⟨row', hrow', hpush, -⟩ := hs.push
  exact Option.some.inj (h.symm.trans hrow') ▸ hpush

lemma Sound.confirmed_of_confirm (hs : Sound cb push w) {r : ConfirmResult}
    (hheld : Holding w push.orgID id amountMinor fun o => Ours cb push o)
    (h : confirm w push.orgID id amountMinor currency = .ok (w', r)) : StkConfirmed cb push w' := by
  obtain ⟨o, ho, -, hoid, hreq, hours⟩ := hheld
  obtain ⟨p, hp, -, hcases⟩ := confirm_cases h
  obtain ⟨hmem, horg, hid⟩ := paymentByID_eq_some hp
  have heq : p.origin = o := hs.origin_eq (List.mem_map_of_mem hmem) ho (hid.trans hoid.symm)
  have hours : Ours cb push p.origin := heq ▸ hours
  have hamount : amountMinor = cb.paidMinor := by
    rw [← hreq, ← heq]
    exact (hs.money p hmem hours).1.1
  rcases hcases with ⟨hstate, hminor, rfl, -⟩ | ⟨-, rfl, -⟩
  · exact ⟨p, hmem, horg, hours.2, hstate, hamount ▸ hminor⟩
  · refine ⟨_, List.mem_map_of_mem hmem, ?_⟩
    rw [if_pos ⟨horg, hid⟩]
    exact ⟨horg, hours.2, rfl, hamount ▸ rfl⟩

lemma Call.underway_next (hpays : Pays cb push) (h : Call s d x) (hs : Sound cb push s.tables)
    (hd : Underway cb push s.tables d) (hq : x.2 = some q) : Underway cb push x.1.tables q := by
  cases h with
  | c2bClaim | stkRecover =>
    cases hq
    exact hd
  | @c2bIntake org c2b id _ _ h =>
    cases hq
    have hkeep := hs.keeps_of_c2b hd h
    rcases intake_cases h with ⟨rfl, -, rfl⟩ | ⟨prior, rfl, hfound, -, hamount, -⟩
    · refine ⟨((c2bIntakeCommand c2b).row org id).origin, ?_, rfl, rfl, rfl, trivial⟩
      exact List.mem_map_of_mem List.mem_concat_self
    · obtain ⟨hmem, horg⟩ := holding_of_found hfound
      exact ⟨prior.origin, hkeep.origins _ (List.mem_map_of_mem hmem), horg, rfl, hamount, trivial⟩
  | stkRoute h =>
    cases hq
    exact ⟨hd, fun heq => hs.isPush (heq ▸ h)⟩
  | stkClaim _ hnext =>
    cases hq
    rcases hnext with rfl | rfl <;> exact hd
  | stkCheck h =>
    cases hq
    exact ⟨hd.1, fun heq => hs.isPush (heq ▸ checkStkResult_eq_ok h)⟩
  | @stkIntake cb' id row _ r h hfresh =>
    cases hq
    refine ⟨hd, ?_⟩
    rcases intake_cases h with ⟨rfl, -, rfl⟩ | ⟨prior, rfl, -⟩
    · refine ⟨((stkIntakeCommand cb' row).row row.orgID id).origin, ?_, rfl, rfl, rfl,
        cb'.trim_paymentKey, rfl⟩
      exact List.mem_map_of_mem List.mem_concat_self
    · cases hfresh
  | stkConfirm _ h =>
    cases hq
    obtain ⟨⟨hfair, hown⟩, o, ho, horg, hid, hreq, hkey, -⟩ := hd
    refine ⟨hfair, ?_⟩
    rintro rfl
    obtain ⟨state, rfl⟩ := hown rfl
    exact hs.confirmed_of_confirm ⟨o, ho, horg, hid, hreq, horg, hkey⟩ h
  | stkFail hfailure =>
    cases hq
    refine ⟨hd.1.1, ?_⟩
    rintro rfl
    exact absurd hpays.success (by simp [hfailure])
  | c2bConfirm | stkAckSettled | stkAckDuplicate | stkResolve | restart => cases hq

/-! ## No call of the callback is refused -/

lemma Sound.claim_accepted (hpays : Pays cb push) (hs : Sound cb push w) (org : Uuid) :
    ∃ w' o, intakeCallback w org cb.journeyKey push.requestedMinor = .ok (w', o) := by
  have hpos : ¬ push.requestedMinor ≤ 0 := not_le.mpr hpays.positive
  cases hfind : w.journeys.find? fun row => row.journeyKey = cb.journeyKey with
  | none => simp [intakeCallback, claimJourney, Fallible.do_eq, hpos, hfind]
  | some row =>
    obtain ⟨hmem, hkey⟩ := Fallible.of_find hfind
    have hsame := hs.journeys row hmem hkey
    simp [intakeCallback, claimJourney, Fallible.do_eq, hpos, hfind, hsame]

/-- **The intake of the callback is accepted.** It finds the payment of the checkout, or nothing
stands in the way of a new one: a payment of the organisation with the receipt is that of the
checkout. -/
lemma Sound.intake_accepted (hpays : Pays cb push) (hs : Sound cb push w) (hrow : IsPush push row)
    (hnew : ∀ p ∈ w.payments, p.id ≠ id) :
    ∃ w' r, intake w push.orgID (stkIntakeCommand cb row) id = .ok (w', r) := by
  obtain ⟨state, rfl⟩ := hrow
  set cmd := stkIntakeCommand cb { push with state } with hcmd
  have hkey : trim cmd.idempotencyKey = paymentIdempotencyKey cb.checkoutRequestID :=
    cb.trim_paymentKey
  have href : trim cmd.externalRef = cb.receiptNumberOrCheckout := cb.trim_reference
  have hmoney : ∀ prior, FoundPrior w push.orgID cmd prior →
      assertDuplicateMoney prior cmd.amountMinor cmd.currency = .ok () := by
    intro prior hfound
    have hprior := hs.money prior (holding_of_found hfound).1 (hs.ours_of_found hfound)
    exact assertDuplicateMoney_eq_ok.mpr ⟨hprior.1.2, hprior.1.1.trans hpays.amount⟩
  have htx : ∃ w' r, intakeTx w push.orgID cmd id = .ok (w', r) := by
    simp only [intakeTx]
    split
    · rename_i prior hkeyed
      simp [hmoney prior (.inl hkeyed), Fallible.do_eq]
    · split
      · rename_i prior hfound
        simp [replayPrior, hmoney prior (.inr hfound), Fallible.do_eq]
      · rename_i hnone
        rw [if_neg]
        · exact ⟨_, _, rfl⟩
        · rintro ⟨p, hp, hid | ⟨horg, hsame⟩⟩
          · exact hnew p hp hid
          · -- by the reference it is the payment of the checkout, so it has the key too
            have hours : p.idempotencyKey = trim cmd.idempotencyKey := by
              rcases hsame with hsame | hsame
              · rw [hkey]
                exact (hs.reference p.origin (List.mem_map_of_mem hp)
                  ⟨horg, hsame.trans href⟩).2
              · exact hsame
            have hmissed := (Option.or_eq_none_iff.mp hnone).2
            exact List.find?_eq_none.mp hmissed p hp (by simpa using ⟨horg, hours⟩)
  have hchannel : ¬ (cmd.channel ≠ "c2b" ∧ cmd.channel ≠ "stk") := fun h => h.2 rfl
  have hpos : ¬ cmd.amountMinor ≤ 0 := not_le.mpr hpays.positive
  have hrefs : ¬ ∃ ref ∈ cmd.declaredRefs, trim ref = "" := by simp [hcmd, stkIntakeCommand]
  have hblank : paymentIdempotencyKey cb.checkoutRequestID ≠ "" := by
    simp [paymentIdempotencyKey, String.ext_iff]
  simpa only [intake, Fallible.do_eq, hchannel, hpos, hrefs, hkey, href, hblank,
    cb.receiptNumberOrCheckout_ne, if_false] using htx

/-- **The confirmation of the callback is accepted.** The payment that its intake made is still
there and waits, or is confirmed for the same money. -/
lemma Sound.confirm_accepted (hpays : Pays cb push) (hs : Sound cb push w)
    (hheld : Holding w push.orgID id push.requestedMinor fun o =>
      o.idempotencyKey = paymentIdempotencyKey cb.checkoutRequestID ∧ o.currency = push.currency) :
    ∃ w' r, confirm w push.orgID id push.requestedMinor push.currency = .ok (w', r) := by
  obtain ⟨o, ho, horg, rfl, -, hkey, hcur⟩ := hheld
  obtain ⟨p, hp, rfl⟩ := List.mem_map.mp ho
  have hfind : paymentByID w push.orgID p.id = some p := by
    have hsome : (paymentByID w push.orgID p.id).isSome := by
      rw [paymentByID, List.find?_isSome]
      exact ⟨p, hp, by simpa using (show p.orgID = push.orgID from horg)⟩
    obtain ⟨p', hp'⟩ := Option.isSome_iff_exists.mp hsome
    obtain ⟨hmem, -, hid⟩ := paymentByID_eq_some hp'
    rwa [hs.row_eq hmem hp hid] at hp'
  rcases (hs.money p hp ⟨horg, hkey⟩).2 with hwaits | ⟨hstate, hminor⟩
  · exact ⟨_, _, confirm_of_waiting hfind hpays.positive hcur (.inl hwaits)⟩
  · rw [hpays.amount] at hminor
    exact ⟨_, _, confirm_of_confirmed hfind hpays.positive hcur hstate hminor⟩

/-- **An unkilled delivery of the callback is acknowledged,** or it is refused because another one
resolved the push while it ran, and then the payment is confirmed. Either way the payment is
there. -/
theorem taken_of_end (hpays : Pays cb push) (hs : Sound cb push s.tables)
    (hd : Underway cb push s.tables d) (hnew : MintsNew cb s.tables d)
    (hown : d.stkCallback = some cb) (hend : (advance s d).2 = none) :
    Taken cb push (advance s d).1.tables ∧
      (cb.journeyKey ∈ (advance s d).1.acks ∨ StkConfirmed cb push (advance s d).1.tables) := by
  obtain ⟨row, hrow, ⟨state, rfl⟩, hsettled⟩ := hs.push
  have hroute : routeStkResult s.tables cb = .ok _ := routeStkResult_eq_ok.mpr hrow
  have hacked : ∀ {w}, Taken cb push w → Taken cb push (s.ack w cb.journeyKey).1.tables ∧
      (cb.journeyKey ∈ (s.ack w cb.journeyKey).1.acks ∨
        StkConfirmed cb push (s.ack w cb.journeyKey).1.tables) := fun h =>
    ⟨h, .inl List.mem_concat_self⟩
  cases d with
  | c2bPosted | c2bClaimed | c2bIntaken | restarting => cases hown
  | stkPosted cb' id =>
    obtain rfl : cb' = cb := Option.some.inj hown
    simp [advance, hroute, Rail.proceed, Rail.resume] at hend
  | stkRouted cb' id row =>
    obtain rfl : cb' = cb := Option.some.inj hown
    obtain ⟨_, rfl⟩ := hd.2 rfl
    obtain ⟨w', o, hclaim⟩ := hs.claim_accepted hpays push.orgID
    cases o <;> simp [advance, hclaim, Rail.proceed, Rail.resume] at hend
  | stkDuplicate cb' id row =>
    obtain rfl : cb' = cb := Option.some.inj hown
    by_cases hopen : state = .initiated
    · simp [advance, hroute, Rail.proceed, Rail.resume, hopen] at hend
    · simpa [advance, hroute, Rail.proceed, hopen] using hacked (hsettled hopen).taken
  | stkClaimed cb' id row =>
    obtain rfl : cb' = cb := Option.some.inj hown
    obtain ⟨_, rfl⟩ := hd.2 rfl
    by_cases hopen : state = .initiated
    · simp [advance, checkStkResult, hrow, hpays.amount, hopen, Fallible.do_eq, Rail.proceed,
        Rail.resume] at hend
    · have hconfirmed := hsettled hopen
      simpa [advance, checkStkResult, hrow, hpays.amount, hopen, Fallible.do_eq, Rail.proceed]
        using And.intro hconfirmed.taken (Or.inr hconfirmed)
  | stkChecked cb' id row =>
    obtain rfl : cb' = cb := Option.some.inj hown
    have hpush := hd.2 rfl
    obtain ⟨w', r, hintake⟩ := hs.intake_accepted hpays hpush (hnew _ rfl rfl)
    obtain ⟨_, rfl⟩ := hpush
    rcases intake_cases hintake with ⟨rfl, -⟩ | ⟨prior, rfl, hfound, -⟩
    · simp [advance, hintake, Rail.proceed, Rail.resume] at hend
    · have htaken : Taken cb' push s.tables := ⟨prior.origin,
        List.mem_map_of_mem (holding_of_found hfound).1, hs.ours_of_found hfound⟩
      simpa [advance, hintake, Rail.proceed] using
        hacked ((hs.keeps_of_stk hpays hd.1 hd.2 hintake).taken htaken)
  | stkIntaken cb' row id =>
    obtain rfl : cb' = cb := Option.some.inj hown
    obtain ⟨⟨-, hpush⟩, hheld⟩ := hd
    obtain ⟨_, rfl⟩ := hpush rfl
    obtain ⟨w', r, hconfirm⟩ := hs.confirm_accepted hpays hheld
    simp [advance, hpays.success, hconfirm, Rail.proceed, Rail.resume] at hend
  | stkSettled cb' row id =>
    obtain rfl : cb' = cb := Option.some.inj hown
    exact hacked (hd.2 rfl).taken

/-! ## The duty to confirm -/

lemma owed_of_confirm {r : ConfirmResult} (h : confirm w org id amountMinor currency = .ok (w', r))
    (howed : Owed cb push w') : Owed cb push w := by
  obtain ⟨-, -, -, ⟨-, -, rfl, -⟩ | ⟨-, rfl, -⟩⟩ := confirm_cases h
  · exact howed
  · obtain ⟨p, hp, hours, hstate⟩ := howed
    rcases mem_confirmPayment hp with ⟨hold, -⟩ | ⟨q, -, -, -, rfl⟩
    · exact ⟨p, hold, hours, hstate⟩
    · cases hstate

lemma owed_of_intake (h : intake w org cmd id = .ok (w', r)) (howed : Owed cb push w') :
    Owed cb push w ∨ r.duplicate = false ∧ Ours cb push (cmd.row org id).origin := by
  obtain ⟨p, hp, hours, hstate⟩ := howed
  rcases intake_cases h with ⟨rfl, -, rfl⟩ | ⟨prior, -, -, -, -, rfl | rfl⟩
  · rcases Lists.mem_concat hp with hold | rfl
    · exact .inl ⟨p, hold, hours, hstate⟩
    · exact .inr ⟨rfl, hours⟩
  · exact .inl ⟨p, hp, hours, hstate⟩
  · exact .inl ⟨p, hp, hours, hstate⟩

/-- **The bearer discharges its duty.** Its confirmation is accepted, and after it the payment does
not wait. -/
lemma not_owed_of_bears (hpays : Pays cb push) (hs : Sound cb push s.tables)
    (hd : Underway cb push s.tables d) (hbears : Bears cb d) :
    ¬ Owed cb push (advance s d).1.tables := by
  cases d with
  | stkIntaken cb' row id =>
    obtain rfl : cb' = cb := Option.some.inj hbears
    obtain ⟨⟨-, hpush⟩, hheld⟩ := hd
    obtain ⟨_, rfl⟩ := hpush rfl
    obtain ⟨w', r, hconfirm⟩ := hs.confirm_accepted hpays hheld
    simp only [advance, if_pos hpays.success, hconfirm, Rail.proceed, Rail.resume]
    have hkeeps := hs.keeps_of_confirm hheld hconfirm
    obtain ⟨o, ho, horg, hid, hreq, hkey, -⟩ := hheld
    exact hkeeps.sound.not_owed_of_confirmed
      (hs.confirmed_of_confirm ⟨o, ho, horg, hid, hreq, horg, hkey⟩ hconfirm)
  | _ => cases hbears

lemma Call.owed (h : Call s d x) (hd : Underway cb push s.tables d)
    (howed : Owed cb push x.1.tables) :
    Owed cb push s.tables ∨ ∃ q, x.2 = some q ∧ Bears cb q := by
  cases h with
  | c2bClaim h | stkClaim h =>
    rcases intakeCallback_cases h with ⟨-, -, rfl⟩ | ⟨-, rfl, -⟩ <;> exact .inl howed
  | @c2bIntake _ c2b _ _ _ h =>
    rcases owed_of_intake h howed with hold | ⟨-, -, hkey⟩
    · exact .inl hold
    · exact absurd (c2b.trim_paymentKey.symm.trans hkey) (c2bPaymentKey_ne _ _)
  | stkAckDuplicate h hdup =>
    rcases owed_of_intake h howed with hold | ⟨hfresh, -⟩
    · exact .inl hold
    · exact absurd hdup (by simp [hfresh])
  | @stkIntake cb' _ row _ r h =>
    rcases owed_of_intake h howed with hold | ⟨-, -, hkey⟩
    · exact .inl hold
    · refine .inr ⟨_, rfl, ?_⟩
      rcases hd.1 with rfl | ⟨hcheckout, -⟩
      · rfl
      · have hsame := cb'.trim_paymentKey.symm.trans hkey
        exact absurd (paymentIdempotencyKey_injective hsame) hcheckout
  | c2bConfirm h | stkConfirm _ h => exact .inl (owed_of_confirm h howed)
  | stkFail =>
    obtain ⟨p, hp, hours, hstate⟩ := howed
    obtain ⟨q, hq, rfl⟩ := List.mem_map.mp hp
    split_ifs at hours hstate
    · cases hstate
    · exact .inl ⟨q, hq, hours, hstate⟩
  | stkRoute | stkAckSettled | stkRecover | stkCheck | stkResolve | restart => exact .inl howed

/-! ## The runs -/

/-- The invariant of the whole rail: that of the tables and of the deliveries, and while the payment
waits, a delivery is there that confirms it. -/
structure Settling (cb : StkCallback) (push : StkInitiationRow)
    (s : Processes.State Rail Delivery) : Prop where
  holds : Processes.Holds (fun s => Sound cb push s.tables)
    (fun s d => Underway cb push s.tables d) s
  attended : Processes.Attended (fun s => Owed cb push s.tables) (Bears cb) s

lemma NewCheckout.settling (h : NewCheckout cb push s) : Settling cb push ⟨s, []⟩ := by
  refine ⟨⟨h.sound, fun d hd => by cases hd⟩, ?_⟩
  rintro ⟨p, hp, hours, -⟩
  exact absurd hours (h.payments _ (List.mem_map_of_mem hp)).1

lemma Settling.keeps (hpays : Pays cb push) {s : Processes.State Rail Delivery}
    (hs : Settling cb push s) (hd : d ∈ s.alive) :
    Keeps cb push s.world.tables (advance s.world d).1.tables := by
  rcases advance_cases s.world d with heq | hcall
  · rw [heq]
    exact hs.holds.world.keeps_self
  · exact hcall.keeps hpays hs.holds.world (hs.holds.alive d hd)

theorem settling_of_step (hpays : Pays cb push) (s : Processes.State Rail Delivery)
    (e : Processes.Event RailRequest) (s' : Processes.State Rail Delivery)
    (hcond : Undisturbed cb push s e) (hs : Settling cb push s)
    (h : Processes.step rail s e = some s') : Settling cb push s' := by
  constructor
  · refine holds_of_step (C := Undisturbed cb push) ?_ ?_ ?_ hcond hs.holds h
    · intro s r hr
      cases r with
      | stk | c2b => exact hr
      | restart => trivial
    · intro s i d _ _ hI hd
      rcases advance_cases s.world d with heq | hcall
      · rw [show rail.advance s.world d = _ from heq]
        exact ⟨hI, fun q hq => by cases hq⟩
      · exact ⟨(hcall.keeps hpays hI hd).sound, fun q hq => hcall.underway_next hpays hI hd hq⟩
    · intro s d q hI hd hq
      rcases advance_cases s d with heq | hcall
      · rw [show rail.advance s d = _ from heq]
        exact hq
      · exact (hcall.keeps hpays hI hd).underway hq
  · refine attended_of_step ?_ ?_ hs.attended h
    · intro d hd howed
      have hunder := hs.holds.alive d hd
      by_cases hbears : Bears cb d
      · exact absurd howed (not_owed_of_bears hpays hs.holds.world hunder hbears)
      · rcases advance_cases s.world d with heq | hcall
        · rw [show rail.advance s.world d = _ from heq] at howed
          exact .inl ⟨howed, hbears⟩
        · rcases hcall.owed hunder howed with hold | hnext
          · exact .inl ⟨hold, hbears⟩
          · exact .inr hnext
    · rintro i d rfl hd
      simpa [Undisturbed, hd] using hcond

lemma taken_of_step (hpays : Pays cb push) {s s' : Processes.State Rail Delivery}
    {e : Processes.Event RailRequest} (hs : Settling cb push s)
    (htaken : Taken cb push s.world.tables)
    (h : Processes.step rail s e = some s') : Taken cb push s'.world.tables := by
  rcases Processes.step_cases h with ⟨r, rfl, rfl⟩ | ⟨i, d, rfl, hd, rfl⟩ | ⟨i, rfl, rfl⟩
  · exact htaken
  · exact (hs.keeps hpays (List.mem_of_getElem? hd)).taken htaken
  · exact htaken

/-- **The money of a push is confirmed.** Let nothing be known of a checkout but its open push, and
let its callback report the money of the push. Take any interleaving of deliveries, killed at any
time but between the intake and the confirmation of the callback, in which no other callback of the
organisation has its receipt. If one delivery of the callback runs to its end and none is under way,
the payment of the checkout is confirmed for the amount of the callback.

**Proof sketch.** When the delivery ends, the payment is there. It stays there, and while it waits a
delivery is under way that confirms it next. -/
theorem stk_money_confirmed (cb : StkCallback) (push : StkInitiationRow) (start : Rail)
    (events : List (Processes.Event RailRequest)) (hpays : Pays cb push)
    (hnew : NewCheckout cb push start)
    (hcond : Meets (Processes.step rail) (Undisturbed cb push) ⟨start, []⟩ events)
    (hends : RunsToEnd cb ⟨start, []⟩ events)
    (hdone : ∀ d ∈ (run (Processes.step rail) ⟨start, []⟩ events).alive, d.stkCallback ≠ some cb) :
    StkConfirmed cb push (run (Processes.step rail) ⟨start, []⟩ events).world.tables := by
  obtain ⟨before, i, after, rfl, d, hd, hown, hend⟩ := hends
  obtain ⟨hbefore, hmints, hafter⟩ := (meets_append _ _ _).mp hcond
  set s := run (Processes.step rail) ⟨start, []⟩ before with hs
  have hsettling : Settling cb push s :=
    run_invariant (settling_of_step hpays) before _ hnew.settling hbefore
  -- the last call of the delivery
  have hstep : Processes.step rail s (.advance i) = some _ :=
    Option.map_eq_some_iff.mpr ⟨d, hd, rfl⟩
  have hnext := settling_of_step hpays s _ _ hmints hsettling hstep
  have htaken := (taken_of_end hpays hsettling.holds.world
    (hsettling.holds.alive d (List.mem_of_getElem? hd)) (by simpa [Undisturbed, hd] using hmints)
    hown hend).1
  -- what follows it
  rw [run_append, run_cons, ← hs, next_of_some hstep] at hdone ⊢
  rw [next_of_some hstep] at hafter
  obtain ⟨hlast, o, ho, hours⟩ := run_invariant
    (I := fun s => Settling cb push s ∧ Taken cb push s.world.tables)
    (fun s e s' hC hI h => ⟨settling_of_step hpays s e s' hC hI.1 h,
      taken_of_step hpays hI.1 hI.2 h⟩)
    after _ ⟨hnext, htaken⟩ hafter
  obtain ⟨p, hp, rfl⟩ := List.mem_map.mp ho
  rcases (hlast.holds.world.money p hp hours).2 with hwaits | ⟨hstate, hminor⟩
  · -- it would wait with nobody to confirm it
    obtain ⟨q, hq, hbears⟩ := hlast.attended ⟨p, hp, hours, hwaits⟩
    cases q with
    | stkIntaken cb' row id => exact absurd hbears (hdone _ hq)
    | _ => cases hbears
  · exact ⟨p, hp, hours.1, hours.2, hstate, hminor⟩

def phonePush : StkInitiationRow := ⟨"org-a", "ws_CO_123456", none, 10000, "KES", .initiated⟩

def pushed : Rail := ⟨⟨[], [], [], [], [phonePush]⟩, ["org-a"], []⟩

def paid : StkCallback := ⟨"ws_CO_123456", true, "QKL1A2B3C4", 10000, by decide, by decide⟩

lemma newCheckout_pushed : NewCheckout paid phonePush pushed where
  found := rfl
  opened := rfl
  ids := List.nodup_nil
  payments := fun _ ho => by cases ho
  keys := fun _ hk => by cases hk
  journeys := fun _ hj => by cases hj

/-- The result is delivered twice: the first delivery dies after its claim, the second finds the
push still open and settles it. -/
theorem stk_money_confirmed_redelivered :
    StkConfirmed paid phonePush (run (Processes.step rail) ⟨pushed, []⟩
      [.begin (.stk paid "pay-1"), .advance 0, .advance 0, .kill 0, .begin (.stk paid "pay-2"),
        .advance 0, .advance 0, .advance 0, .advance 0, .advance 0, .advance 0,
        .advance 0]).world.tables :=
  stk_money_confirmed paid phonePush pushed _ ⟨rfl, rfl, by decide⟩ newCheckout_pushed
    (by decide +kernel)
    ⟨[.begin (.stk paid "pay-1"), .advance 0, .advance 0, .kill 0, .begin (.stk paid "pay-2"),
      .advance 0, .advance 0, .advance 0, .advance 0, .advance 0, .advance 0], 0, [], rfl,
      .stkSettled paid phonePush "pay-2", by decide +kernel, rfl, rfl⟩
    (by decide +kernel)

/-- **The money of a push is lost.** The first delivery dies after its intake. The second finds the
push still open, but stops at the payment that is there; it is acknowledged, and the payment
waits. -/
theorem stk_money_lost :
    let s := run (Processes.step rail) ⟨pushed, []⟩
      [.begin (.stk paid "pay-1"), .advance 0, .advance 0, .advance 0, .advance 0, .kill 0,
        .begin (.stk paid "pay-2"), .advance 0, .advance 0, .advance 0, .advance 0, .advance 0]
    paid.journeyKey ∈ s.world.acks ∧ s.alive = [] ∧
      s.world.tables.payments.map (fun p => (p.id, p.state)) = [("pay-1", .initiated)] ∧
      ¬ StkConfirmed paid phonePush s.world.tables := by
  decide +kernel

end Fuatilia.Backend
