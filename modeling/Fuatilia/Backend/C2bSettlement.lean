import Fuatilia.Backend.Callbacks

/-!
# One transaction of the rail, one organisation

A C2B confirmation is posted to the URL of an organisation. The ledger records who claimed a journey
first, but the handler settles a duplicate like a first delivery and never looks at the organisation
on record.

## Main definitions

* `OneOrganisation`, `Undisputed` — the law of the money, and the condition on a claim.

## Main results

* `c2b_money_in_one_organisation` — the law, in every interleaving of undisputed claims.
* `c2b_money_in_two_organisations` — one transaction as confirmed money of two.
-/

namespace Fuatilia.Backend

open Machine

def PaymentRow.c2bJourneyKey (p : PaymentRow) : String := "c2b:" ++ p.externalRef

/-- No two organisations hold a confirmed payment of one journey. -/
def OneOrganisation (w : World) : Prop :=
  ∀ p ∈ w.payments, ∀ q ∈ w.payments, p.channel = "c2b" → q.channel = "c2b" →
    p.confirmedMinor.isSome → q.confirmedMinor.isSome → p.c2bJourneyKey = q.c2bJourneyKey →
    p.orgID = q.orgID
  deriving Decidable

/-- A claim that finds its journey on record, with its money, finds its own organisation there. -/
def Undisputed (s : Processes.State Rail Delivery) : Processes.Event RailRequest → Prop
  | .advance i =>
    match s.alive[i]? with
    | some (.c2bPosted orgID cb _) => ∀ row ∈ s.world.tables.journeys,
      row.journeyKey = cb.journeyKey → row.amountMinor = cb.amountMinor → row.orgID = orgID
    | _ => True
  | _ => True

instance (s : Processes.State Rail Delivery) (e : Processes.Event RailRequest) :
    Decidable (Undisputed s e) := by
  unfold Undisputed
  split
  · split <;> infer_instance
  · infer_instance

/-! ## The invariant -/

def ClaimedBy (w : World) (journeyKey : String) (orgID : Uuid) : Prop :=
  ∃ row ∈ w.journeys, row.journeyKey = journeyKey ∧ row.orgID = orgID

/-- A journey is on record for one organisation, and every C2B payment belongs to the organisation
on record. -/
structure Routed (w : World) : Prop where
  journeys : ∀ j ∈ w.journeys, ∀ j' ∈ w.journeys, j.journeyKey = j'.journeyKey → j.orgID = j'.orgID
  payments : ∀ o ∈ w.origins, o.channel = "c2b" → ClaimedBy w ("c2b:" ++ o.externalRef) o.orgID

/-- A delivery that has claimed its journey has it on record for its organisation. -/
def Claims (w : World) : Delivery → Prop
  | .c2bClaimed orgID cb _ => ClaimedBy w cb.journeyKey orgID
  | _ => True

lemma Routed.oneOrganisation {w : World} (h : Routed w) : OneOrganisation w := by
  intro p hp q hq hpc hqc _ _ hkey
  obtain ⟨j, hj, hjkey, hjorg⟩ := h.payments p.origin (List.mem_map_of_mem hp) hpc
  obtain ⟨j', hj', hjkey', hjorg'⟩ := h.payments q.origin (List.mem_map_of_mem hq) hqc
  calc p.orgID = j.orgID := hjorg.symm
    _ = j'.orgID := h.journeys j hj j' hj' (by rw [hjkey, hjkey']; exact hkey)
    _ = q.orgID := hjorg'

variable {s : Rail} {d : Delivery} {x : Rail × Option Delivery}

lemma Call.claimedBy (h : Call s d x) {journeyKey : String} {orgID : Uuid}
    (hclaimed : ClaimedBy s.tables journeyKey orgID) : ClaimedBy x.1.tables journeyKey orgID := by
  obtain ⟨row, hrow, hrest⟩ := hclaimed
  refine ⟨row, ?_, hrest⟩
  rcases h.journeys with heq | ⟨new, -, heq⟩ <;> rw [heq]
  · exact hrow
  · exact List.mem_append_left _ hrow

lemma Call.routed (h : Call s d x) (hs : Routed s.tables) (hd : Claims s.tables d) :
    Routed x.1.tables := by
  constructor
  · rcases h.journeys with heq | ⟨new, hfree, heq⟩ <;> rw [heq]
    · exact hs.journeys
    · intro j hj j' hj' hkey
      simp only [List.mem_append, List.mem_singleton] at hj hj'
      rcases hj with hj | rfl <;> rcases hj' with hj' | rfl
      · exact hs.journeys j hj j' hj' hkey
      · exact absurd hkey (hfree j hj)
      · exact absurd hkey.symm (hfree j' hj')
      · rfl
  · intro o ho hc2b
    have hold : o ∈ s.tables.origins → ClaimedBy x.1.tables ("c2b:" ++ o.externalRef) o.orgID :=
      fun ho => h.claimedBy (hs.payments o ho hc2b)
    rcases h.origins with heq | ⟨orgID, cb, id, rfl, heq⟩ | ⟨cb, id, row, rfl, heq⟩
      <;> rw [heq] at ho
    · exact hold ho
    · rcases Lists.mem_concat ho with ho | rfl
      · exact hold ho
      · have hclaimed := h.claimedBy hd
        rwa [C2bCallback.journeyKey, ← cb.trim_transID] at hclaimed
    · rcases Lists.mem_concat ho with ho | rfl
      · exact hold ho
      · -- the money of a push is of the other channel
        exact absurd (show "stk" = "c2b" from hc2b) (by decide)

lemma claims_of_call {orgID : Uuid} {cb : C2bCallback} {w w' : World} {o : Outcome}
    (hundisputed : ∀ row ∈ w.journeys, row.journeyKey = cb.journeyKey →
      row.amountMinor = cb.amountMinor → row.orgID = orgID)
    (h : intakeCallback w orgID cb.journeyKey cb.amountMinor = .ok (w', o)) :
    ClaimedBy w' cb.journeyKey orgID := by
  rcases intakeCallback_cases h with ⟨-, -, rfl⟩ | ⟨-, rfl, row, hrow, hkey, hamount⟩
  · exact ⟨_, List.mem_concat_self, rfl, rfl⟩
  · exact ⟨row, hrow, hkey, hundisputed row hrow hkey hamount⟩

lemma Call.claims {s : Processes.State Rail Delivery} {i : ℕ} {q : Delivery}
    (hi : s.alive[i]? = some d) (h : Call s.world d x)
    (hundisputed : Undisputed s (.advance i)) (hq : x.2 = some q) : Claims x.1.tables q := by
  cases h with
  | c2bClaim h =>
    cases hq
    simp only [Undisputed, hi] at hundisputed
    exact claims_of_call hundisputed h
  | stkClaim h hd =>
    cases hq
    rcases hd with rfl | rfl <;> trivial
  | c2bIntake | stkRoute | stkRecover | stkCheck | stkIntake | stkConfirm | stkFail =>
    cases hq
    trivial
  | c2bConfirm | stkAckSettled | stkAckDuplicate | stkResolve | restart => cases hq

lemma Call.claims_other (h : Call s d x) {q : Delivery} (hq : Claims s.tables q) :
    Claims x.1.tables q := by
  cases q with
  | c2bClaimed orgID cb id => exact h.claimedBy hq
  | _ => trivial

/-! ## The runs -/

/-- **The money of one transaction is in one organisation.** Start with no delivery under way and
with every C2B payment in the organisation that its journey is on record for. In every interleaving
of undisputed claims, deliveries killed at any time, no two organisations ever hold a confirmed
payment of one journey.

**Proof sketch.** A payment is only made by a delivery whose journey is on record for its
organisation, records stay, and there is one for each journey. -/
theorem c2b_money_in_one_organisation (start : Rail) (events : List (Processes.Event RailRequest))
    (hstart : Routed start.tables)
    (hundisputed : Meets (Processes.step rail) Undisputed ⟨start, []⟩ events) (k : ℕ) :
    OneOrganisation (run (Processes.step rail) ⟨start, []⟩ (events.take k)).world.tables := by
  have hholds := Processes.invariant_at (S := rail) (C := Undisputed)
    (I := fun s => Routed s.tables) (J := fun s d => Claims s.tables d)
    (fun _ r _ => by cases r <;> trivial)
    (fun s i d hC hi hI hJ => ?_) (fun s d q hI hJ hq => ?_)
    ⟨hstart, fun _ h => by cases h⟩ hundisputed k
  · exact hholds.world.oneOrganisation
  · rcases advance_cases s.world d with heq | hcall
    · rw [show rail.advance s.world d = _ from heq]
      exact ⟨hI, fun q hq => by cases hq⟩
    · exact ⟨hcall.routed hI hJ, fun q hq => hcall.claims hi hC hq⟩
  · rcases advance_cases s d with heq | hcall
    · show Claims (advance s d).1.tables q
      rw [heq]
      exact hq
    · exact hcall.claims_other hq

def twoOrganisations : Rail := ⟨⟨[], [], [], [], []⟩, ["org-a", "org-b"], []⟩

def transaction : C2bCallback := ⟨"QKL1A2B3C4", 10000, ["INV-1"], by decide⟩

def delivered (orgID id : Uuid) : List (Processes.Event RailRequest) :=
  [.begin (.c2b orgID transaction id), .advance 0, .advance 0, .advance 0]

/-- Deliveries to one organisation, again and again, are undisputed: the second finds the payment of
the first. -/
theorem c2b_money_in_one_organisation_redelivered :
    let s := run (Processes.step rail) ⟨twoOrganisations, []⟩
      (delivered "org-a" "pay-1" ++ delivered "org-a" "pay-2")
    OneOrganisation s.world.tables ∧
      s.world.tables.payments.map (fun p => (p.id, p.confirmedMinor)) =
      [("pay-1", some 10000)] := by
  refine ⟨c2b_money_in_one_organisation twoOrganisations
    (delivered "org-a" "pay-1" ++ delivered "org-a" "pay-2") ⟨?_, ?_⟩ (by decide +kernel) 8,
    by decide +kernel⟩ <;> intro _ h <;> cases h

/-- **One transaction is money in two organisations.** It is posted to the URLs of both; the second
claim is a duplicate, and is settled all the same. -/
theorem c2b_money_in_two_organisations :
    ¬ OneOrganisation (run (Processes.step rail) ⟨twoOrganisations, []⟩
      (delivered "org-a" "pay-1" ++ delivered "org-b" "pay-2")).world.tables := by
  decide +kernel

end Fuatilia.Backend
