import Fuatilia.Auth.Escalation
import Fuatilia.Backend.RoleGrants

/-!
# Grants of the backend and the authority behind them

`GrantRole` is to obey the law of the domain core without resources. Of the three gaps of the core's
guard one is left: a wildcard rule passes as soon as the granter has one permission on its resource.

## Main definitions

* `NoEscalation`, `wildcardsHeld` — the law, and the check that is left out.

## Main results

* `noEscalation_iff`, `run_traced` — the law of a grant, and of a run.
* `grants_within_authority` — the law, in the core and in the backend.
-/

namespace Fuatilia.Backend

open Machine
open Auth (PERMISSIONS covers heldBy)

/-! ## The law of one grant -/

def Allows (userID : Uuid) (rules : List PermissionRule) (permission : String) : Prop :=
  (can ⟨userID, "active", rules⟩ permission).allowed = true
  deriving Decidable

/-- **The law.** Whatever is allowed on account of the grant was allowed to the granter. -/
def NoEscalation (db : AuthDb) (args : GrantArgs) (grant : AssignmentRow) : Prop :=
  ∀ permission, Allows grant.userID (rulesOf db.roles grant) permission →
    Allows args.granterID (activeRulesForUser db args.orgID args.granterID) permission

/-- The check that the guard leaves out: of every wildcard rule of the role, the granter has every
permission of the vocabulary on the resource. -/
def wildcardsHeld (db : AuthDb) (args : GrantArgs) : Bool :=
  match lookupRole db.roles args.orgID args.roleID with
  | none => true
  | some role => role.permissions.all fun rule => !endsWith rule ":*" ||
      PERMISSIONS.all fun permission => !startsWith permission (dropLast rule) ||
        (effectivePermissions (activeRulesForUser db args.orgID args.granterID)).contains permission

variable {permission : String} {userID orgID : Uuid} {db db' : AuthDb}

lemma allows_iff {rules : List PermissionRule} :
    Allows userID rules permission ↔
      permission ∈ PERMISSIONS ∧ permission ∈ effectivePermissions rules := by
  simp only [Allows, can_allowed, true_and]
  exact and_congr_right fun hknown => (mem_effectivePermissions_iff hknown).symm

variable {grant new : AssignmentRow}

lemma allows_rulesOf {roles : List RoleRow} {role : RoleRow}
    (hrole : lookupRole roles grant.orgID grant.roleID = some role) :
    Allows userID (rulesOf roles grant) permission ↔
      permission ∈ PERMISSIONS ∧ ∃ rule ∈ role.permissions, covers rule permission = true := by
  simp [Allows, can_allowed, rulesOf, hrole]

/-- **The law of an accepted grant.** A new grant allows no more than the granter was allowed
exactly when the check that the guard leaves out holds. -/
theorem noEscalation_iff {args : GrantArgs} {id : Uuid} {now : ℤ}
    (h : grantRole db args id now = .ok (db', ⟨grant, false⟩)) :
    NoEscalation db args grant ↔ wildcardsHeld db args = true := by
  obtain ⟨rfl, -, role, hrole, hheld⟩ := grantRole_granted h
  have hconferred : ∀ permission, Allows args.userID (rulesOf db.roles (args.row id now))
      permission ↔ permission ∈ PERMISSIONS ∧ ∃ rule ∈ role.permissions,
      covers rule permission = true :=
    fun permission => allows_rulesOf hrole
  simp only [wildcardsHeld, hrole, List.all_eq_true, Bool.or_eq_true, Bool.not_eq_true',
    List.contains_iff_mem]
  constructor
  · intro hlaw rule hrule
    refine or_iff_not_imp_left.mpr fun hwild permission hknown => ?_
    refine or_iff_not_imp_left.mpr fun hstarts => ?_
    have hcovers : covers rule permission = true := by
      simp [covers, Auth.wildcardCovers, Bool.not_eq_false _ ▸ hwild,
        Bool.not_eq_false _ ▸ hstarts]
    exact (allows_iff.mp (hlaw permission ((hconferred _).mpr ⟨hknown, rule, hrule, hcovers⟩))).2
  · intro hall permission hallows
    obtain ⟨hknown, rule, hrule, hcovers⟩ := (hconferred permission).mp hallows
    refine allows_iff.mpr ⟨hknown, ?_⟩
    simp only [covers, Auth.wildcardCovers, Bool.or_eq_true, beq_iff_eq, Bool.and_eq_true]
      at hcovers
    rcases hcovers with rfl | ⟨hwild, hstarts⟩
    · exact Auth.mem_of_heldBy hknown (hheld rule hrule)
    · have hheld := (hall rule hrule).resolve_left (by simp [hwild]) permission hknown
      exact hheld.resolve_left (by simp [hstarts])

/-! ## Runs of calls -/

inductive Command where
  | grant (args : GrantArgs) (id : Uuid) (now : ℤ)
  | revoke (args : RevokeArgs) (id : Uuid)

def step (db : AuthDb) : Command → Option AuthDb
  | .grant args id now => (grantRole db args id now).toOption.map Prod.fst
  | .revoke args id => (revokeRole db args id).toOption.map Prod.fst

def lawful (db : AuthDb) : Command → Bool
  | .grant args _ _ => wildcardsHeld db args
  | .revoke _ _ => true

def Handed (orgID : Uuid) (db : AuthDb) (granter grantee : Uuid) : Prop :=
  ∃ row ∈ db.assignments, row.orgID = orgID ∧ row.kind = .grant ∧ row.grantedBy = granter ∧
    row.userID = grantee

def Passes (orgID : Uuid) (db : AuthDb) (userID : Uuid) (permission : String) : Prop :=
  Allows userID (activeRulesForUser db orgID userID) permission

lemma step_inversion {c : Command} (h : step db c = some db') :
    (∃ args id now, c = .grant args id now ∧
        grantRole db args id now = .ok (db', ⟨args.row id now, false⟩)) ∨ db' = db ∨
      ∃ args grant id, db.insert (RevokeArgs.row args grant id) = .ok db' := by
  cases c with
  | grant args id now =>
    obtain ⟨⟨db'', grant, held⟩, hgrant, rfl⟩ := Fallible.map_toOption_eq_some.mp h
    cases held with
    | false =>
      obtain ⟨rfl, -, -⟩ := grantRole_granted hgrant
      exact .inl ⟨args, id, now, rfl, hgrant⟩
    | true => exact .inr (.inl (grantRole_alreadyHeld hgrant))
  | revoke args id =>
    obtain ⟨⟨db'', grant⟩, hrevoke, rfl⟩ := Fallible.map_toOption_eq_some.mp h
    have hinsert := (revokeRole_eq_ok hrevoke).2
    exact .inr (.inr ⟨args, grant, id, hinsert⟩)

lemma passes_iff :
    Passes orgID db userID permission ↔ ∃ g, IsActive db.assignments g ∧
      (g.orgID = orgID ∧ g.userID = userID) ∧ Allows userID (rulesOf db.roles g) permission := by
  simp only [Passes, Allows, can_allowed, mem_activeRulesForUser, true_and]
  constructor
  · rintro ⟨hknown, rule, ⟨g, hactive, hover, hrule⟩, hcovers⟩
    exact ⟨g, hactive, hover, hknown, rule, hrule, hcovers⟩
  · rintro ⟨g, hactive, hover, hknown, rule, hrule, hcovers⟩
    exact ⟨hknown, rule, ⟨g, hactive, hover, hrule⟩, hcovers⟩

lemma Passes.of_insert (hinsert : db.insert new = .ok db')
    (h : Passes orgID db' userID permission) :
    Passes orgID db userID permission ∨ new.kind = .grant ∧
      (new.orgID = orgID ∧ new.userID = userID) ∧ Allows userID
      (rulesOf db.roles new) permission := by
  obtain ⟨-, _, rfl⟩ := insert_eq_ok.mp hinsert
  obtain ⟨g, hactive, hover, hallows⟩ := passes_iff.mp h
  rcases hactive.of_append with hold | ⟨rfl, hkind⟩
  · exact .inl (passes_iff.mpr ⟨g, hold, hover, hallows⟩)
  · exact .inr ⟨hkind, hover, hallows⟩

lemma Handed.insert {granter grantee : Uuid}
    (hinsert : db.insert new = .ok db') (h : Handed orgID db granter grantee) :
    Handed orgID db' granter grantee := by
  obtain ⟨-, _, rfl⟩ := insert_eq_ok.mp hinsert
  obtain ⟨row, hrow, hrest⟩ := h
  exact ⟨row, List.mem_append_left _ hrow, hrest⟩

/-- **No authority from nowhere.** Along a run of calls that meet the missing check, whatever is
allowed to a user of an org at the end was allowed at the beginning to a user from whom a chain of
grants leads to that user. -/
theorem run_traced (orgID : Uuid) (commands : List Command) (db : AuthDb)
    (hlawful : Meets step (fun t c => lawful t c = true) db commands)
    (userID : Uuid) (permission : String)
    (h : Passes orgID (run step db commands) userID permission) :
    ∃ origin, Relation.ReflTransGen (Handed orgID (run step db commands)) origin userID ∧
      Passes orgID db origin permission := by
  refine traced ?_ ?_ commands db hlawful userID permission h
  · intro t c t' _ hstep granter grantee hhanded
    rcases step_inversion hstep with ⟨args, id, now, -, hgrant⟩ | rfl | ⟨_, _, _, hinsert⟩
    · exact hhanded.insert (grantRole_granted hgrant).2.1
    · exact hhanded
    · exact hhanded.insert hinsert
  · intro t c t' hlaw hstep user permission hpasses
    rcases step_inversion hstep with ⟨args, id, now, rfl, hgrant⟩ | rfl | ⟨_, _, _, hinsert⟩
    · have hinsert := (grantRole_granted hgrant).2.1
      rcases hpasses.of_insert hinsert with hold | ⟨-, ⟨rfl, rfl⟩, hallows⟩
      · exact .inl hold
      · obtain ⟨-, _, rfl⟩ := insert_eq_ok.mp hinsert
        refine .inr ⟨args.granterID, ⟨args.row id now, ?_, rfl, rfl, rfl, rfl⟩, ?_⟩
        · exact List.mem_concat_self
        · exact (noEscalation_iff hgrant).mpr hlaw permission hallows
    · exact .inl hpasses
    · rcases hpasses.of_insert hinsert with hold | ⟨hkind, -, -⟩
      · exact .inl hold
      · cases hkind

/-! ## The domain core and the backend -/

/-- **Grants and the granter's authority.** In the domain core, a grant confers no more than its
granter passed before exactly when the checks hold that the guard leaves out, and along such runs
all authority was there at the beginning. The same holds in the backend, without resources. -/
theorem grants_within_authority (roles : List Auth.Role) (trail : List Auth.RoleGrant)
    (db : AuthDb) :
    (∀ (args : Auth.GrantRoleArgs) (clock : Clock) (grant : Auth.RoleGrant)
        (event : Auth.AuthEvent) (granter grantee : Auth.User),
      Auth.grantRole trail args clock = .ok (.granted grant event) →
      args.granterPermissions = Auth.ownPermissions roles trail args.grantedBy →
      granter.userId = args.grantedBy → grantee.userId = args.userId → grantee.status = .active →
      (Auth.NoEscalation roles trail granter grantee grant ↔
        Auth.withinAuthority roles trail granter args = true)) ∧
    (∀ (directory : Auth.Directory) (commands : List Auth.Command),
      Meets (Auth.step roles) (fun t c => Auth.lawful roles directory t c = true) trail commands →
      ∀ userId request,
        Auth.Passes roles directory (run (Auth.step roles) trail commands) userId request →
        ∃ origin, Relation.ReflTransGen (Auth.Handed (run (Auth.step roles) trail commands))
          origin userId ∧ Auth.Passes roles directory trail origin request) ∧
    (∀ (db' : AuthDb) (args : GrantArgs) (id : Uuid) (now : ℤ) (grant : AssignmentRow),
      grantRole db args id now = .ok (db', ⟨grant, false⟩) →
      (NoEscalation db args grant ↔ wildcardsHeld db args = true)) ∧
    (∀ (orgID : Uuid) (commands : List Command),
      Meets step (fun t c => lawful t c = true) db commands →
      ∀ userID permission, Passes orgID (run step db commands) userID permission →
        ∃ origin, Relation.ReflTransGen (Handed orgID (run step db commands)) origin userID ∧
          Passes orgID db origin permission) := by
  refine ⟨?_, ?_, ?_, ?_⟩
  · intro args clock grant event granter grantee hgranted hown hgranter hgrantee hstatus
    exact Auth.noEscalation_iff roles granter grantee hgranted hown hgranter hgrantee hstatus
  · intro directory commands hlawful
    exact Auth.run_traced roles directory commands trail hlawful
  · intro db' args id now grant hgrant
    exact noEscalation_iff hgrant
  · intro orgID commands hlawful
    exact run_traced orgID commands db hlawful

def noon : Clock := ⟨fun _ => .ofTime 0⟩

def exampleRole (roleId : Uuid) (rules : List String) (hne : rules ≠ [])
    (hrules : ∀ rule ∈ rules, Auth.IsRoleRule rule) : Auth.Role :=
  ⟨roleId, "org", roleId, rules, .ofTime 0, hne, hrules⟩

def exampleRoles : List Auth.Role :=
  [exampleRole "owner" ["admin:*", "collections:*"] (by decide) (by decide +kernel),
    exampleRole "admin" ["admin:manage-users", "collections:read"] (by decide) (by decide +kernel),
    exampleRole "collector" ["collections:*"] (by decide) (by decide +kernel)]

def exampleGrant (grantId userId roleId : Uuid) (resourceId : Option Uuid) : Auth.RoleGrant :=
  ⟨grantId, "org", userId, roleId, resourceId, "root", .ofTime 0, none, none, none⟩

def grantCollector (grantedBy userId : Uuid) (trail : List Auth.RoleGrant) : Auth.GrantRoleArgs :=
  ⟨"new", "org", userId, exampleRole "collector" ["collections:*"] (by decide) (by decide +kernel),
    grantedBy, Auth.ownPermissions exampleRoles trail grantedBy, none⟩

def exampleDb : AuthDb where
  roles := [⟨"admin", "org", "admin", ["admin:manage-users", "collections:read"]⟩,
    ⟨"collector", "org", "collector", ["collections:*"]⟩]
  users := [⟨"root", "org"⟩, ⟨"ann", "org"⟩, ⟨"ben", "org"⟩]
  assignments := [⟨"g1", "org", .grant, "ann", "admin", none, "root", 0, none, none, none⟩]
  ids_nodup := by decide
  hasKeys := by decide

/-- An owner grants the collector role, and the collector then passes `collections:act`: the origin
of that authority is found among the users of the first trail. -/
theorem grants_within_authority_owner :
    ∃ origin, Relation.ReflTransGen (Auth.Handed (run (Auth.step exampleRoles)
        [exampleGrant "g1" "ann" "owner" none]
        [.grant (grantCollector "ann" "ben" []) noon])) origin "ben" ∧
      Auth.Passes exampleRoles ⟨fun id => ⟨id, "org", .active⟩, fun _ => rfl⟩
        [exampleGrant "g1" "ann" "owner" none] origin ("collections:act", none) :=
  (grants_within_authority exampleRoles [exampleGrant "g1" "ann" "owner" none] exampleDb).2.1
    ⟨fun id => ⟨id, "org", .active⟩, fun _ => rfl⟩ [.grant (grantCollector "ann" "ben" []) noon]
    (by decide +kernel) "ben" ("collections:act", none)
    (by unfold Auth.Passes; decide +kernel)

/-- **An escalation by wildcard, and one by scope.** An administrator who only reads collections
grants the collector role, and the grantee passes `collections:act`. And an owner on one resource
grants the role for all resources. -/
theorem escalation_by_wildcard :
    (∃ grant event, Auth.grantRole [exampleGrant "g1" "ann" "admin" none]
        (grantCollector "ann" "ben" [exampleGrant "g1" "ann" "admin" none]) noon =
          .ok (.granted grant event) ∧
      (Auth.can (Auth.userPrincipal ⟨"ben", "org", .active⟩ [grant] exampleRoles)
        "collections:act" none).allowed = true ∧
      (Auth.can (Auth.userPrincipal ⟨"ann", "org", .active⟩ [exampleGrant "g1" "ann" "admin" none]
        exampleRoles) "collections:act" none).allowed = false) ∧
    (∃ grant event, Auth.grantRole [exampleGrant "g1" "ann" "owner" (some "a")]
        (grantCollector "ann" "ben" [exampleGrant "g1" "ann" "owner" (some "a")]) noon =
          .ok (.granted grant event) ∧
      (Auth.can (Auth.userPrincipal ⟨"ben", "org", .active⟩ [grant] exampleRoles)
        "collections:act" (some "b")).allowed = true ∧
      (Auth.can (Auth.userPrincipal ⟨"ann", "org", .active⟩
        [exampleGrant "g1" "ann" "owner" (some "a")] exampleRoles)
        "collections:act" (some "b")).allowed = false) ∧
    ∃ db' grant, grantRole exampleDb ⟨"org", "ann", "ben", "collector", ""⟩ "new" 1 =
        .ok (db', ⟨grant, false⟩) ∧
      Passes "org" db' "ben" "collections:act" ∧
      ¬ Passes "org" exampleDb "ann" "collections:act" := by
  refine ⟨⟨_, _, rfl, by decide +kernel, by decide +kernel⟩,
    ⟨_, _, rfl, by decide +kernel, by decide +kernel⟩, _, _, rfl, ?_, ?_⟩
  · unfold Passes
    decide +kernel
  · unfold Passes
    decide +kernel

end Fuatilia.Backend
