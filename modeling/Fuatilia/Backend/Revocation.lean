import Fuatilia.Foundations.Transactions
import Fuatilia.Backend.Escalation

/-!
# Interleavings of grants and revocations

`GrantRole` and `RevokeRole` as transactions under READ COMMITTED, any number of them at once. A
revocation may have no effect in three ways: `RevokeRole` finds no grant for one resource, two
concurrent grants both find nothing active and a revocation ends only one of them, and a revocation
overtaken by another one and a new grant does not end the new grant.

## Main definitions

* `system` — the two transactions, statement by statement.
* `orderly` — the condition that excludes the three.

## Main results

* `revocation_takes_effect` — every active grant can be revoked, and a revocation removes the rules.
-/

namespace Fuatilia.Backend

open Machine Transactions

/-! ## The transactions -/

inductive Request where
  | grant (args : GrantArgs) (id : Uuid) (now : ℤ)
  | revoke (args : RevokeArgs) (id : Uuid)

inductive Tx where
  | grantStarted (args : GrantArgs) (id : Uuid) (now : ℤ)
  | grantLooked (args : GrantArgs) (id : Uuid) (now : ℤ) (role : RoleRow)
      (granterPermissions : List String)
  | grantCleared (args : GrantArgs) (id : Uuid) (now : ℤ)
  | grantHeld (existing : AssignmentRow)
  | revokeStarted (args : RevokeArgs) (id : Uuid)
  | revokeLooked (args : RevokeArgs) (id : Uuid) (grant : AssignmentRow)
  | inserted (request : Request) (row : AssignmentRow)

def Tx.start : Request → Tx
  | .grant args id now => .grantStarted args id now
  | .revoke args id => .revokeStarted args id

def Tx.advance (db : AuthDb) : Tx → Option Tx
  | .grantStarted args id now =>
    (grantLookup db args).toOption.map fun found => .grantLooked args id now found.1 found.2
  | .grantLooked args id now role granterPermissions =>
    (grantDecide db args role granterPermissions).toOption.map fun standing =>
      match standing with
      | some existing => .grantHeld existing
      | none => .grantCleared args id now
  | .grantCleared args id now =>
    (db.insert (args.row id now)).toOption.map fun _ =>
      .inserted (.grant args id now) (args.row id now)
  | .revokeStarted args id => (revokeLookup db args).toOption.map (.revokeLooked args id)
  | .revokeLooked args id grant =>
    (db.insert (args.row grant id)).toOption.map fun _ =>
      .inserted (.revoke args id) (args.row grant id)
  -- nothing is left to run
  | .grantHeld _ | .inserted _ _ => none

def Tx.commit (db : AuthDb) : Tx → Option AuthDb
  | .inserted _ row => if h : Constrained db row then some (db.append row h) else none
  | .grantHeld _ => some db
  | _ => none

def system : System AuthDb Request Tx := ⟨Tx.start, Tx.advance, Tx.commit⟩

/-- All active grants are org-wide, and there is at most one for each org, user and role. -/
def Settled (db : AuthDb) : Prop :=
  ∀ g, IsActive db.assignments g → g.resourceID = none ∧
    ∀ g', IsActive db.assignments g' → g'.IsOver g.orgID g.userID g.roleID → g' = g

instance (db : AuthDb) : Decidable (Settled db) :=
  decidable_of_iff (∀ g ∈ activeGrants db.assignments, g.resourceID = none ∧
      ∀ g' ∈ activeGrants db.assignments, g'.IsOver g.orgID g.userID g.roleID → g' = g)
    (by simp [mem_activeGrants, Settled])

/-- The condition on a commit. A grant is org-wide, and no grant of the role to the user is active
when it commits; the grant that a revocation names is not revoked when it commits. -/
def orderly (s : State AuthDb Tx) : Event Request → Bool
  | .commit i =>
    match s.inFlight[i]? with
    | some (.inserted _ row) =>
      match row.kind, row.revokedGrantID with
      | .grant, _ => row.resourceID.isNone && (activeGrants s.db.assignments).all fun g =>
          !decide (g.IsOver row.orgID row.userID row.roleID)
      | .revoke, some target => !decide (IsRevoked s.db.assignments target)
      | .revoke, none => true
    | _ => true
  | _ => true

/-! ## What commits keep -/

/-- The grant that a revocation has found is over the user and the role of the call, and so is the
fact it inserts, which names a grant of them. -/
def Tx.Aimed (db : AuthDb) : Tx → Prop
  | .revokeLooked args _ grant => grant.IsOver args.orgID args.userID args.roleID
  | .inserted (.revoke args _) row =>
    row.kind = .revoke ∧ ∃ target ∈ db.assignments, row.revokedGrantID = some target.id ∧
      target.kind = .grant ∧ target.IsOver args.orgID args.userID args.roleID
  | _ => True

variable {db db' : AuthDb} {t : Tx} {row : AssignmentRow} {i : ℕ} {s : State AuthDb Tx}
  {orgID roleID userID : Uuid}

lemma commit_cases (h : Tx.commit db t = some db') :
    db' = db ∨ ∃ request row h, t = .inserted request row ∧ db' = db.append row h := by
  unfold Tx.commit at h
  split at h
  · split_ifs at h with hfits
    exact .inr ⟨_, _, hfits, rfl, (Option.some.inj h).symm⟩
  · exact .inl (Option.some.inj h).symm
  · cases h

variable {t' : Tx} {request : Request} {events : List (Event Request)} {args : RevokeArgs}
  {id : Uuid} {g : AssignmentRow}

/-- A statement leaves the transaction aimed: the query of a revocation looks for its user and its
role, and the trigger compares the grant named by the fact with them. -/
lemma Tx.Aimed.advance (ht : t.Aimed db) (h : Tx.advance db t = some t') :
    t'.Aimed db := by
  cases t with
  | grantStarted args id now | grantCleared args id now =>
    obtain ⟨_, -, rfl⟩ := Option.map_eq_some_iff.mp h
    trivial
  | grantLooked args id now role perms =>
    obtain ⟨standing, -, rfl⟩ := Option.map_eq_some_iff.mp h
    cases standing <;> trivial
  | revokeStarted args id =>
    obtain ⟨grant, hlookup, rfl⟩ := Fallible.map_toOption_eq_some.mp h
    have hfound := revokeLookup_eq_ok hlookup
    exact (activeGrantFor_eq_some hfound).2.1
  | revokeLooked args id grant =>
    obtain ⟨db', hinsert, rfl⟩ := Fallible.map_toOption_eq_some.mp h
    have hvalid := (insert_eq_ok.mp hinsert).1
    obtain ⟨target, hmem, hid, hgrant, hover, -⟩ := validateRevoke_eq_ok hvalid rfl
    refine ⟨rfl, target, hmem, hid, hgrant, ?_⟩
    exact ⟨hover.1.trans ht.1, hover.2.1.trans ht.2.1, hover.2.2.trans ht.2.2⟩
  | grantHeld existing | inserted request row => cases h

lemma Tx.Aimed.frame {u : Tx} (h : Tx.commit db t = some db') (hu : u.Aimed db) : u.Aimed db' := by
  rcases commit_cases h with rfl | ⟨_, row, hfits, -, rfl⟩
  · exact hu
  · unfold Tx.Aimed at hu ⊢
    split at hu
    · exact hu
    · obtain ⟨hkind, target, hmem, hrest⟩ := hu
      exact ⟨hkind, target, List.mem_append_left _ hmem, hrest⟩
    · trivial

lemma Settled.append_grant {h : Constrained db row} (hs : Settled db)
    (hwide : row.resourceID = none)
    (hnone : ∀ g, IsActive db.assignments g → ¬ g.IsOver row.orgID row.userID row.roleID) :
    Settled (db.append row h) := by
  intro g hg
  rcases hg.of_append with hold | ⟨rfl, -⟩
  · refine ⟨(hs g hold).1, fun g' hg' hover => ?_⟩
    rcases hg'.of_append with hold' | ⟨rfl, -⟩
    · exact (hs g hold).2 g' hold' hover
    · exact absurd ⟨hover.1.symm, hover.2.1.symm, hover.2.2.symm⟩ (hnone g hold)
  · refine ⟨hwide, fun g' hg' hover => ?_⟩
    rcases hg'.of_append with hold' | ⟨rfl, -⟩
    · exact absurd hover (hnone g' hold')
    · rfl

lemma Settled.append_revoke {h : Constrained db row} (hs : Settled db)
    (hkind : row.kind = .revoke) : Settled (db.append row h) := by
  have hold : ∀ g, IsActive (db.append row h).assignments g → IsActive db.assignments g := by
    intro g hg
    rcases hg.of_append with hold | ⟨-, hgrant⟩
    · exact hold
    · rw [hkind] at hgrant
      cases hgrant
  intro g hg
  exact ⟨(hs g (hold g hg)).1, fun g' hg' => (hs g (hold g hg)).2 g' (hold g' hg')⟩

lemma Settled.commit (horderly : orderly s (.commit i) = true) (ht : s.inFlight[i]? = some t)
    (hs : Settled s.db) (h : Tx.commit s.db t = some db) : Settled db := by
  rcases commit_cases h with rfl | ⟨_, row, hfits, rfl, rfl⟩
  · exact hs
  · cases hkind : row.kind with
    | grant =>
      have hnone : row.resourceID = none ∧
          ∀ g, IsActive s.db.assignments g → ¬ g.IsOver row.orgID row.userID row.roleID := by
        simpa [orderly, ht, hkind, mem_activeGrants] using horderly
      exact hs.append_grant hnone.1 hnone.2
    | revoke => exact hs.append_revoke hkind

lemma settled_at (hdb : Settled db)
    (horderly : Meets (Transactions.step system) (fun s e => orderly s e = true) ⟨db, []⟩ events)
    (k : ℕ) : Holds Settled (fun db (t : Tx) => t.Aimed db)
      (run (Transactions.step system) ⟨db, []⟩ (events.take k)) := by
  refine Transactions.invariant_at ?_ ?_ ?_ ?_ ⟨hdb, by simp⟩ horderly k
  · intro s r _
    cases r <;> trivial
  · intro db t t' _ ht hadvance
    exact ht.advance hadvance
  · intro s i t db hC ht hs _ hcommit
    exact hs.commit hC ht hcommit
  · intro db t db' u _ hcommit hu
    exact hu.frame hcommit

/-! ## After a revocation -/

def Tx.Grants (orgID userID roleID : Uuid) : Tx → Prop
  | .grantStarted args _ _ | .grantLooked args _ _ _ _ | .grantCleared args _ _ =>
    args.orgID = orgID ∧ args.userID = userID ∧ args.roleID = roleID
  | .inserted _ row => row.kind = .grant ∧ row.IsOver orgID userID roleID
  | .grantHeld _ | .revokeStarted _ _ | .revokeLooked _ _ _ => False

def Request.Grants (orgID userID roleID : Uuid) (r : Request) : Prop :=
  (Tx.start r).Grants orgID userID roleID

def Unheld (orgID userID roleID : Uuid) (db : AuthDb) : Prop :=
  ∀ g, IsActive db.assignments g → ¬ g.IsOver orgID userID roleID

lemma Tx.Grants.of_advance (h : Tx.advance db t = some t')
    (hgrants : t'.Grants orgID userID roleID) : t.Grants orgID userID roleID := by
  cases t with
  | grantStarted args id now =>
    obtain ⟨found, -, rfl⟩ := Option.map_eq_some_iff.mp h
    exact hgrants
  | grantLooked args id now role perms =>
    obtain ⟨standing, -, rfl⟩ := Option.map_eq_some_iff.mp h
    cases standing with
    | some existing => exact hgrants.elim
    | none => exact hgrants
  | grantCleared args id now =>
    obtain ⟨_, -, rfl⟩ := Option.map_eq_some_iff.mp h
    exact hgrants.2
  | grantHeld existing => cases h
  | revokeStarted args id =>
    obtain ⟨found, -, rfl⟩ := Option.map_eq_some_iff.mp h
    exact hgrants.elim
  | revokeLooked args id grant =>
    obtain ⟨_, -, rfl⟩ := Option.map_eq_some_iff.mp h
    cases hgrants.1
  | inserted request row => cases h

lemma Unheld.commit (hdb : Unheld orgID userID roleID db) (ht : ¬ t.Grants orgID userID roleID)
    (h : Tx.commit db t = some db') : Unheld orgID userID roleID db' := by
  rcases commit_cases h with rfl | ⟨_, row, hfits, rfl, rfl⟩
  · exact hdb
  · intro g hg hover
    rcases hg.of_append with hold | ⟨rfl, hkind⟩
    · exact hdb g hold hover
    · exact ht ⟨hkind, hover⟩

lemma unheld_at
    (hs : Holds (Unheld orgID userID roleID) (fun _ (t : Tx) => ¬ t.Grants orgID userID roleID) s)
    (hbegin : ∀ r, .begin r ∈ events → ¬ r.Grants orgID userID roleID) (k : ℕ) :
    Unheld orgID userID roleID (run (Transactions.step system) s (events.take k)).db := by
  have hmeets : Meets (Transactions.step system)
      (fun _ e => ∀ r, e = .begin r → ¬ r.Grants orgID userID roleID) s events := by
    clear hs k
    induction events generalizing s with
    | nil => trivial
    | cons e events ih =>
      refine ⟨fun r he => hbegin r (he ▸ List.mem_cons_self), ih fun r hr => ?_⟩
      exact hbegin r (List.mem_cons_of_mem e hr)
  refine (Transactions.invariant_at ?_ ?_ ?_ ?_ hs hmeets k).data
  · intro s r hr
    exact hr r rfl
  · intro db t t' _ ht hadvance hgrants
    exact ht (hgrants.of_advance hadvance)
  · intro s i t db _ _ hdb ht hcommit
    exact hdb.commit ht hcommit
  · intro db t db' u _ _ hu
    exact hu

/-- An orderly commit of a revocation leaves the role unheld.

**Proof sketch.** The revocation names a grant of the role to the user that was active, and that was
the only one. -/
lemma unheld_of_revoke (hs : Holds Settled (fun db (t : Tx) => t.Aimed db) s)
    (ht : s.inFlight[i]? = some (.inserted (.revoke args id) row))
    (horderly : orderly s (.commit i) = true)
    (h : Tx.commit s.db (.inserted (.revoke args id) row) = some db) :
    Unheld args.orgID args.userID args.roleID db := by
  obtain ⟨hkind, target, hmem, hid, hgrant, hover⟩ := hs.open' _ (List.mem_of_getElem? ht)
  have hfree : ¬ IsRevoked s.db.assignments target.id := by
    simpa [orderly, ht, hkind, hid] using horderly
  simp only [Tx.commit] at h
  split_ifs at h with hfits
  cases h
  intro g hg hg'
  rcases hg.of_append with hold | ⟨-, hkind'⟩
  · have hsame : g = target := by
      refine (hs.data target ⟨hmem, hgrant, hfree⟩).2 g hold ?_
      exact ⟨hg'.1.trans hover.1.symm, hg'.2.1.trans hover.2.1.symm, hg'.2.2.trans hover.2.2.symm⟩
    refine hg.2.2 ⟨row, List.mem_concat_self, ?_⟩
    rw [hsame, hid]
  · rw [hkind] at hkind'
    cases hkind'

lemma Settled.revocable (hdb : Settled db) (hg : IsActive db.assignments g) :
    ∃ args id db' found, args.userID = g.userID ∧ args.roleID = g.roleID ∧
      revokeRole db args id = .ok (db', found) ∧ ¬ IsActive db'.assignments g := by
  obtain ⟨args, id, db', found, huser, hrole, hrevoke, hactive, hover, -⟩ :=
    exists_revokeRole hg (hdb g hg).1
  refine ⟨args, id, db', found, huser, hrole, hrevoke, fun hstill => hstill.2.2 ?_⟩
  obtain rfl : found = g := (hdb g hg).2 found hactive hover
  obtain ⟨-, _, rfl⟩ := insert_eq_ok.mp (revokeRole_eq_ok hrevoke).2
  exact ⟨_, List.mem_concat_self, rfl⟩

lemma Unheld.rules (h : Unheld orgID userID roleID db) :
    (∀ rule ∈ activeRulesForUser db orgID userID, ∃ g, IsActive db.assignments g ∧
        (g.orgID = orgID ∧ g.userID = userID) ∧ g.roleID ≠ roleID ∧ rule ∈ rulesOf db.roles g) ∧
      ∀ permission, Passes orgID db userID permission → ∃ g, IsActive db.assignments g ∧
        (g.orgID = orgID ∧ g.userID = userID) ∧ g.roleID ≠ roleID ∧
        Allows userID (rulesOf db.roles g) permission := by
  constructor
  · intro rule hrule
    obtain ⟨g, hg, hover, hrule⟩ := mem_activeRulesForUser.mp hrule
    exact ⟨g, hg, hover, fun hrole => h g hg ⟨hover.1, hover.2, hrole⟩, hrule⟩
  · intro permission hpasses
    obtain ⟨g, hg, hover, hallows⟩ := passes_iff.mp hpasses
    exact ⟨g, hg, hover, fun hrole => h g hg ⟨hover.1, hover.2, hrole⟩, hallows⟩

/-- **Revocation takes effect.** Along every orderly interleaving from settled data, every active
grant can be revoked. And once a `RevokeRole` has committed, with no `GrantRole` of the user and the
role open or begun later, all that the user is allowed comes from other roles. -/
theorem revocation_takes_effect (db : AuthDb) (hdb : Settled db) (events : List (Event Request))
    (horderly : Meets (Transactions.step system) (fun s e => orderly s e = true) ⟨db, []⟩ events) :
    (∀ k g, IsActive (run (Transactions.step system) ⟨db, []⟩ (events.take k)).db.assignments g →
      ∃ args id db' found, args.userID = g.userID ∧ args.roleID = g.roleID ∧
        revokeRole (run (Transactions.step system) ⟨db, []⟩ (events.take k)).db args id =
          .ok (db', found) ∧ ¬ IsActive db'.assignments g) ∧
    ∀ before i after args id row s, events = before ++ .commit i :: after →
      (run (Transactions.step system) ⟨db, []⟩ before).inFlight[i]? =
        some (.inserted (.revoke args id) row) →
      Transactions.step system (run (Transactions.step system) ⟨db, []⟩ before) (.commit i) =
        some s →
      (∀ t ∈ s.inFlight, ¬ Tx.Grants args.orgID args.userID args.roleID t) →
      (∀ r, .begin r ∈ after → ¬ r.Grants args.orgID args.userID args.roleID) →
      ∀ k, let db' := (run (Transactions.step system) s (after.take k)).db
        (∀ rule ∈ activeRulesForUser db' args.orgID args.userID, ∃ g, IsActive db'.assignments g ∧
          (g.orgID = args.orgID ∧ g.userID = args.userID) ∧ g.roleID ≠ args.roleID ∧
          rule ∈ rulesOf db'.roles g) ∧
        ∀ permission, Passes args.orgID db' args.userID permission →
          ∃ g, IsActive db'.assignments g ∧ (g.orgID = args.orgID ∧ g.userID = args.userID) ∧
            g.roleID ≠ args.roleID ∧ Allows args.userID (rulesOf db'.roles g) permission := by
  constructor
  · intro k g hg
    exact (settled_at hdb horderly k).data.revocable hg
  · intro before i after args id row s hevents ht hstep hopen hbegin k
    subst hevents
    obtain ⟨hbefore, hcommit, -⟩ := (meets_append _ before _).mp horderly
    have hs := settled_at hdb hbefore before.length
    rw [List.take_length] at hs
    obtain ⟨t, ht', hmap⟩ := Option.bind_eq_some_iff.mp hstep
    obtain ⟨db', hdb', rfl⟩ := Option.map_eq_some_iff.mp hmap
    obtain rfl := Option.some.inj (ht'.symm.trans ht)
    have hunheld := unheld_of_revoke hs ht hcommit hdb'
    exact (unheld_at ⟨hunheld, hopen⟩ hbegin k).rules

/-! ## Runs on a small ledger -/

def ledgerDb : AuthDb where
  roles := [⟨"owner", "org", "owner", ["admin:*", "collections:*"]⟩,
    ⟨"collector", "org", "collector", ["collections:*"]⟩]
  users := [⟨"root", "org"⟩, ⟨"ann", "org"⟩, ⟨"ben", "org"⟩]
  assignments := [⟨"g1", "org", .grant, "ann", "owner", none, "root", 0, none, none, none⟩]
  ids_nodup := by decide
  hasKeys := by decide

def grantBen (id resourceID : Uuid) : Event Request :=
  .begin (.grant ⟨"org", "ann", "ben", "collector", resourceID⟩ id 1)

def revokeBen : RevokeArgs := ⟨"org", "ann", "ben", "collector", "left"⟩

def grantThenRevoke : List (Event Request) :=
  [grantBen "g2" "", .advance 0, .advance 0, .advance 0, .commit 0, .begin (.revoke revokeBen "r1"),
    .advance 0, .advance 0]

def grantTwiceThenRevoke : List (Event Request) :=
  [grantBen "g2" "", grantBen "g3" "", .advance 0, .advance 0, .advance 1, .advance 1, .advance 0,
    .advance 1, .commit 0, .commit 0, .begin (.revoke revokeBen "r1"), .advance 0, .advance 0]

def grantOnResource : List (Event Request) :=
  [grantBen "g2" "invoice", .advance 0, .advance 0, .advance 0, .commit 0]

/-- One grant and one revocation are orderly, and no rule of the collector role is left. -/
theorem revocation_takes_effect_once :
    Settled ledgerDb ∧ Meets (Transactions.step system) (fun s e => orderly s e = true)
        ⟨ledgerDb, []⟩ (grantThenRevoke ++ [.commit 0]) ∧
      ∀ rule ∈ activeRulesForUser (run (Transactions.step system) ⟨ledgerDb, []⟩
          (grantThenRevoke ++ [.commit 0])).db "org" "ben",
        ∃ g, IsActive (run (Transactions.step system) ⟨ledgerDb, []⟩
            (grantThenRevoke ++ [.commit 0])).db.assignments g ∧
          (g.orgID = "org" ∧ g.userID = "ben") ∧ g.roleID ≠ "collector" ∧
          rule ∈ rulesOf (run (Transactions.step system) ⟨ledgerDb, []⟩
            (grantThenRevoke ++ [.commit 0])).db.roles g :=
  ⟨by decide +kernel, by decide +kernel,
    ((revocation_takes_effect ledgerDb (by decide +kernel) (grantThenRevoke ++ [.commit 0])
      (by decide +kernel)).2 grantThenRevoke 0 [] revokeBen "r1" _ _ rfl rfl rfl
      (fun t ht => absurd ht List.not_mem_nil) (fun r hr => absurd hr List.not_mem_nil) 0).1⟩

lemma IsActive.of_revokeRole {found : AssignmentRow} (hg : IsActive db.assignments g)
    (hscope : g.resourceID ≠ none) (h : revokeRole db args id = .ok (db', found)) :
    IsActive db'.assignments g := by
  obtain ⟨hlookup, hinsert⟩ := revokeRole_eq_ok h
  obtain ⟨hfound, -, hwide⟩ := activeGrantFor_eq_some (revokeLookup_eq_ok hlookup)
  obtain ⟨-, _, rfl⟩ := insert_eq_ok.mp hinsert
  refine ⟨List.mem_append_left _ hg.1, hg.2.1, fun ⟨rv, hrv, hid⟩ => ?_⟩
  rcases Lists.mem_concat hrv with hold | rfl
  · exact hg.2.2 ⟨rv, hold, hid⟩
  · have hsame : found = g :=
      List.inj_on_of_nodup_map db.ids_nodup hfound.1 hg.1 (Option.some.inj hid)
    exact hscope (hsame ▸ hwide)

/-- **Revocations without effect.** A grant for one resource stays active after every accepted
`RevokeRole`. And after two concurrent grants and one committed revocation, the wildcard of the role
is still among the user's active rules. -/
theorem revocation_without_effect :
    (∃ g, IsActive (run (Transactions.step system) ⟨ledgerDb, []⟩ grantOnResource).db.assignments
      g ∧ ∀ args id db' found,
        revokeRole (run (Transactions.step system) ⟨ledgerDb, []⟩ grantOnResource).db args id =
          .ok (db', found) → IsActive db'.assignments g) ∧
    (∃ row s, (run (Transactions.step system) ⟨ledgerDb, []⟩ grantTwiceThenRevoke).inFlight =
        [.inserted (.revoke revokeBen "r1") row] ∧
      Transactions.step system (run (Transactions.step system) ⟨ledgerDb, []⟩ grantTwiceThenRevoke)
        (.commit 0) = some s ∧ s.inFlight = [] ∧
      activeRulesForUser s.db "org" "ben" = [⟨"collections:*", ""⟩]) := by
  constructor
  · refine ⟨⟨"g2", "org", .grant, "ben", "collector", some "invoice", "ann", 1, none, none, none⟩,
      by decide +kernel, fun args id db' found h => ?_⟩
    exact IsActive.of_revokeRole (by decide +kernel) (by decide) h
  · exact ⟨_, _, rfl, rfl, rfl, by decide +kernel⟩

end Fuatilia.Backend
