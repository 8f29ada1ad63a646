import Fuatilia.Foundations.Keyed
import Fuatilia.Foundations.Lists
import Fuatilia.Foundations.Machine
import Fuatilia.PaymentLinks.Link

/-!
# Runs of payment links

## Main definitions

* `Office`, `step` — any number of links with their accepted redemptions, under redemptions, expiry
  sweeps, disables and cancels.
* `Sound`, `Later` — the invariant, and what becomes of a link.

## Main results

* `links_kept` — what every run keeps.
-/

namespace Fuatilia.PaymentLinks

open Machine

/-! ## The commands -/

structure Office where
  links : List PaymentLink
  redemptions : List RedemptionRecord

inductive Command where
  | redeem (cmd : RedeemCommand) (clock : Clock)
  | expireIfDue (linkId : Uuid) (clock : Clock)
  | disable (linkId : Uuid) (reason : String) (clock : Clock)
  | cancel (linkId : Uuid) (reason : String) (clock : Clock)

namespace Office

def put (s : Office) (link : PaymentLink) : Office :=
  { s with links := Keyed.put (·.linkId) link s.links }

def linkOf (s : Office) (linkId : Uuid) : Option PaymentLink := s.links.find? (·.linkId = linkId)

def redemptionsOf (s : Office) (linkId : Uuid) : List RedemptionRecord :=
  s.redemptions.filter (·.linkId = linkId)

def record (s : Office) (result : RedeemResult) : Office :=
  { s.put result.link with redemptions :=
      if result.duplicate then s.redemptions else s.redemptions ++ [result.redemption] }

end Office

def step (s : Office) : Command → Option Office
  | .redeem cmd clock => (redeem cmd s.links s.redemptions clock).toOption.map s.record
  | .expireIfDue linkId clock => do
    let link ← s.linkOf linkId
    return s.put (PaymentLinks.expireIfDue link clock).link
  | .disable linkId reason clock => do
    let link ← s.linkOf linkId
    let result ← (disableLink link reason clock).toOption
    return s.put result.link
  | .cancel linkId reason clock => do
    let link ← s.linkOf linkId
    let result ← (cancelLink link reason clock).toOption
    return s.put result.link

/-! ## What holds of a link -/

structure Kept (s : Office) (link : PaymentLink) : Prop where
  /-- The redeemed total is the sum of the accepted redemptions, all in the link's currency. -/
  total : link.redeemedTotalMinor =
    ⟨((s.redemptionsOf link.linkId).map (·.amount.amount)).sum, link.currency⟩
  currency : ∀ r ∈ s.redemptionsOf link.linkId, r.amount.currency = link.currency
  /-- The count is the number of accepted redemptions. -/
  count : link.redemptionCount = (s.redemptionsOf link.linkId).length
  /-- The total does not exceed the target. -/
  bounded : ∀ target ∈ link.targetAmountMinor, link.redeemedTotalMinor.amount ≤ target.amount
  /-- A single-use link accepts at most one redemption. -/
  single : link.config.singleUse = true → (s.redemptionsOf link.linkId).length ≤ 1
  /-- The link is completed exactly if it is single-use and redeemed, or its target is met. -/
  completed : link.status = .completed ↔
    link.config.singleUse = true ∧ s.redemptionsOf link.linkId ≠ [] ∨
      link.targetAmountMinor = some link.redeemedTotalMinor
  /-- No redemption was accepted at or after the expiry. -/
  unexpired : ∀ r ∈ s.redemptionsOf link.linkId, ∀ expiry ∈ link.config.expiresAt,
    timeGe r.redeemedAt expiry = false
  /-- Each idempotency key was accepted at most once. -/
  keys : ((s.redemptionsOf link.linkId).map (·.idempotencyKey)).Nodup

/-! ## What a command does -/

/-- A link closed without a redemption: expired, disabled or cancelled, all else but the time of the
closing as before. -/
structure Closes (link link' : PaymentLink) : Prop where
  active : link.status = .active
  closed : link'.status ≠ .active ∧ link'.status ≠ .completed
  linkId : link'.linkId = link.linkId
  token : link'.token = link.token
  currency : link'.currency = link.currency
  target : link'.targetAmountMinor = link.targetAmountMinor
  config : link'.config = link.config
  total : link'.redeemedTotalMinor = link.redeemedTotalMinor
  count : link'.redemptionCount = link.redemptionCount

structure Accepts (s : Office) (link : PaymentLink) (cmd : RedeemCommand) (now : Date)
    (result : RedeemResult) : Prop where
  mem : link ∈ s.links
  key : trim cmd.idempotencyKey ≠ ""
  positive : 0 < cmd.amount.amount
  unused : ∀ r ∈ s.redemptionsOf link.linkId, r.idempotencyKey ≠ trim cmd.idempotencyKey
  redeemed : NewRedemption link cmd (trim cmd.idempotencyKey) now result

variable {command : Command} {link : PaymentLink} {cmd : RedeemCommand}

/-- **Everything a command can do**: nothing, close an active link, or record a new redemption of an
active link. -/
lemma step_cases {s s' : Office} (hids : (s.links.map (·.linkId)).Nodup)
    (h : step s command = some s') :
    s' = s ∨ (∃ link ∈ s.links, ∃ link', Closes link link' ∧ s' = s.put link') ∨
      ∃ link cmd now result, Accepts s link cmd now result ∧
        s' = { s.put result.link with redemptions := s.redemptions ++ [result.redemption] } := by
  have hself : ∀ link ∈ s.links, s.put link = s := by
    intro link hlink
    rw [Office.put, Keyed.put_self hids hlink]
  have hmem : ∀ linkId link, s.linkOf linkId = some link → link ∈ s.links :=
    fun _ _ hlink => List.mem_of_find?_eq_some hlink
  cases command with
  | redeem cmd clock =>
    simp only [step, Option.map_eq_some_iff, Fallible.toOption_eq_some] at h
    obtain ⟨result, hresult, rfl⟩ := h
    obtain ⟨link, hlink, -, hkey, hpositive, hcase⟩ := redeem_cases hresult
    rcases hcase with ⟨hduplicate, hsame, -⟩ | ⟨hunused, hnew⟩
    · left
      rw [Office.record, hsame, hself link hlink, hduplicate, if_pos rfl]
    · refine .inr (.inr ⟨link, cmd, clock.now 0, result, ⟨hlink, hkey, hpositive, ?_, hnew⟩, ?_⟩)
      · intro r hr
        obtain ⟨hr, hid⟩ := List.mem_filter.mp hr
        exact hunused r hr (by simpa using hid)
      · simp [Office.record, hnew.duplicate]
  | expireIfDue linkId clock =>
    simp only [step, Option.bind_eq_bind, Option.bind_eq_some_iff, Option.pure_def,
      Option.some.injEq] at h
    obtain ⟨link, hlink, rfl⟩ := h
    rcases expireIfDue_cases link clock with hsame | ⟨hactive, hexpired⟩
    · left
      rw [hsame, hself link (hmem _ _ hlink)]
    · exact .inr (.inl ⟨link, hmem _ _ hlink, _, by rw [hexpired]; constructor <;> simp [hactive],
        rfl⟩)
  | disable linkId reason clock =>
    obtain ⟨link, hlink, result, hresult, rfl⟩ := Fallible.lookup_eq_some.mp h
    obtain ⟨hactive, hdisabled⟩ := disableLink_eq_ok hresult
    exact .inr (.inl ⟨link, hmem _ _ hlink, _, by rw [hdisabled]; constructor <;> simp [hactive],
      rfl⟩)
  | cancel linkId reason clock =>
    obtain ⟨link, hlink, result, hresult, rfl⟩ := Fallible.lookup_eq_some.mp h
    obtain ⟨hactive, hcancelled⟩ := cancelLink_eq_ok hresult
    exact .inr (.inl ⟨link, hmem _ _ hlink, _, by rw [hcancelled]; constructor <;> simp [hactive],
      rfl⟩)

/-! ## The invariant -/

structure Sound (s : Office) : Prop where
  ids : (s.links.map (·.linkId)).Nodup
  tokens : (s.links.map (·.token)).Nodup
  named : ∀ link ∈ s.links, link.token ≠ ""
  kept : ∀ link ∈ s.links, Kept s link
  /-- What a repetition has to meet before it is compared with the first redemption. -/
  recorded : ∀ r ∈ s.redemptions, r.idempotencyKey ≠ "" ∧ 0 < r.amount.amount

variable {s s' : Office}

lemma redemptionsOf_append (s : Office) (links : List PaymentLink) (r : RedemptionRecord)
    (linkId : Uuid) :
    Office.redemptionsOf ⟨links, s.redemptions ++ [r]⟩ linkId =
      s.redemptionsOf linkId ++ if r.linkId = linkId then [r] else [] := by
  simp [Office.redemptionsOf, List.filter_append, List.filter_cons, List.filter_nil,
    decide_eq_true_eq]

lemma Kept.congr (h : Kept s link)
    (hsame : s'.redemptionsOf link.linkId = s.redemptionsOf link.linkId) : Kept s' link := by
  obtain ⟨htotal, hcurrency, hcount, hbounded, hsingle, hcompleted, hunexpired, hkeys⟩ := h
  rw [← hsame] at htotal hcurrency hcount hsingle hcompleted hunexpired hkeys
  exact ⟨htotal, hcurrency, hcount, hbounded, hsingle, hcompleted, hunexpired, hkeys⟩

variable {link' : PaymentLink} {now : Date} {result : RedeemResult}

lemma Kept.close (h : Kept s link) (hcloses : Closes link link') : Kept s link' := by
  obtain ⟨hactive, hclosed, hid, -, hcur, htarget, hconfig, htot, hcnt⟩ := hcloses
  have hopen : ¬ (link.status = .completed) := by rw [hactive]; decide
  constructor
  · rw [htot, hid, hcur]; exact h.total
  · rw [hid, hcur]; exact h.currency
  · rw [hcnt, hid]; exact h.count
  · rw [htarget, htot]; exact h.bounded
  · rw [hconfig, hid]; exact h.single
  · rw [hconfig, hid, htarget, htot]
    exact ⟨fun hdone => absurd hdone hclosed.2, fun hdone => absurd (h.completed.mpr hdone) hopen⟩
  · rw [hid, hconfig]; exact h.unexpired
  · rw [hid]; exact h.keys

/-- **A new redemption keeps what holds of its link.** An active link is not completed, so a
single-use link has no redemption yet and a target is not met yet. -/
lemma Kept.redeem (h : Kept s link) (hnew : Accepts s link cmd now result)
    (hs' : s'.redemptionsOf link.linkId = s.redemptionsOf link.linkId ++ [result.redemption]) :
    Kept s' result.link := by
  obtain ⟨redemptionId, intentId, hredemption⟩ := hnew.redeemed.redemption
  obtain ⟨completedAt, hnext⟩ := hnew.redeemed.next
  have hopen : ¬ (link.config.singleUse = true ∧ s.redemptionsOf link.linkId ≠ [] ∨
      link.targetAmountMinor = some link.redeemedTotalMinor) := by
    rw [← h.completed, hnew.redeemed.active]
    decide
  rw [hredemption] at hs'
  rw [hnext]
  constructor <;> dsimp only
  · rw [hs', h.total]
    simp
  · rw [hs']
    exact Lists.forall_mem_concat h.currency hnew.redeemed.currency.1
  · rw [hs', h.count, List.length_append]
    rfl
  · exact fun target htarget => (hnew.redeemed.target target htarget).2
  · intro hsingle
    have hnone : s.redemptionsOf link.linkId = [] := by
      by_contra hsome
      exact hopen (.inl ⟨hsingle, hsome⟩)
    rw [hs', hnone]
    rfl
  · rw [hs']
    split_ifs with hcompletes
    · exact iff_of_true rfl (hcompletes.imp_left fun hsingle => ⟨hsingle, by simp⟩)
    · exact iff_of_false (by simp) fun hdone => hcompletes (hdone.imp_left And.left)
  · rw [hs']
    exact Lists.forall_mem_concat h.unexpired hnew.redeemed.unexpired
  · rw [hs']
    refine Lists.nodup_map_concat h.keys fun hkey => ?_
    obtain ⟨r, hr, heq⟩ := List.mem_map.mp hkey
    exact hnew.unused r hr heq

lemma NewRedemption.names {key : String} (h : NewRedemption link cmd key now result) :
    result.link.linkId = link.linkId ∧ result.link.token = link.token := by
  obtain ⟨completedAt, hnext⟩ := h.next
  rw [hnext]
  exact ⟨rfl, rfl⟩

lemma Sound.names (h : Sound s) (hlink : link ∈ s.links)
    (hid : link'.linkId = link.linkId) (htoken : link'.token = link.token) :
    ((s.put link').links.map (·.linkId)).Nodup ∧ ((s.put link').links.map (·.token)).Nodup ∧
      ∀ l ∈ (s.put link').links, l.token ≠ "" := by
  refine ⟨?_, ?_, ?_⟩
  · rw [Office.put, Keyed.map_key_put]
    exact h.ids
  · rw [Office.put, Keyed.map_put]
    · exact h.tokens
    · intro l hl hsame
      rw [Keyed.eq_of_key h.ids hl hlink (hsame.trans hid)]
      exact htoken
  · intro l hl
    rcases Keyed.mem_put hl with rfl | ⟨hl, -⟩
    · rw [htoken]
      exact h.named link hlink
    · exact h.named l hl

theorem sound_step (h : Sound s) (hstep : step s command = some s') :
    Sound s' := by
  rcases step_cases h.ids hstep with rfl | ⟨link, hlink, link', hcloses, rfl⟩ |
    ⟨link, cmd, now, result, hnew, rfl⟩
  · exact h
  · obtain ⟨hids, htokens, hnamed⟩ := h.names hlink hcloses.linkId hcloses.token
    refine ⟨hids, htokens, hnamed, fun l hl => ?_, h.recorded⟩
    rcases Keyed.mem_put hl with rfl | ⟨hl, -⟩
    · exact ((h.kept link hlink).close hcloses).congr rfl
    · exact (h.kept l hl).congr rfl
  · obtain ⟨hid, htoken⟩ := hnew.redeemed.names
    obtain ⟨redemptionId, intentId, hredemption⟩ := hnew.redeemed.redemption
    obtain ⟨hids, htokens, hnamed⟩ := h.names hnew.mem hid htoken
    refine ⟨hids, htokens, hnamed, fun l hl => ?_, fun r hr => ?_⟩
    · rcases Keyed.mem_put hl with rfl | ⟨hl, hother⟩
      · refine (h.kept link hnew.mem).redeem hnew ?_
        rw [redemptionsOf_append, hredemption, if_pos rfl]
      · refine (h.kept l hl).congr ?_
        have hne : ¬ (result.redemption.linkId = l.linkId) := by
          rw [hredemption]
          exact fun hsame => hother (hsame.symm.trans hid.symm)
        rw [redemptionsOf_append, if_neg hne, List.append_nil]
    · rcases Lists.mem_concat hr with hr | rfl
      · exact h.recorded r hr
      · rw [hredemption]
        exact ⟨hnew.key, hnew.positive⟩

/-! ## Runs -/

def Office.start (links : List PaymentLink) : Office := ⟨links, []⟩

lemma Fresh.kept (h : Fresh link) (links : List PaymentLink) :
    Kept (Office.start links) link := by
  have htarget : link.targetAmountMinor ≠ some link.redeemedTotalMinor := by
    intro hmet
    have := h.target _ hmet
    rw [h.total] at this
    exact absurd this (lt_irrefl 0)
  constructor <;> simp [Office.start, Office.redemptionsOf, h.total, h.count, h.active, Money.zero]
  rw [h.total] at htarget
  exact htarget

lemma sound_start {links : List PaymentLink} (hfresh : ∀ link ∈ links, Fresh link)
    (hids : (links.map (·.linkId)).Nodup) (htokens : (links.map (·.token)).Nodup) :
    Sound (Office.start links) :=
  ⟨hids, htokens, fun link hlink => (hfresh link hlink).token,
    fun link hlink => (hfresh link hlink).kept links, by simp [Office.start]⟩

lemma sound_run (h : Sound s) (commands : List Command) : Sound (run step s commands) :=
  run_invariant_all (fun _ _ _ hs hstep => sound_step hs hstep) commands s h

/-! ## Links that are no longer active -/

/-- The redemptions only grow, and those of a link that is not active stay as they are; such a link
stays inactive. -/
structure Later (s s' : Office) : Prop where
  grows : s.redemptions <+: s'.redemptions
  closed : ∀ link ∈ s.links, link.status ≠ .active →
    s'.redemptionsOf link.linkId = s.redemptionsOf link.linkId ∧ link ∈ s'.links

lemma later_refl (s : Office) : Later s s := ⟨List.prefix_refl _, fun _ hlink _ => ⟨rfl, hlink⟩⟩

lemma later_trans (a b c : Office) (hab : Later a b) (hbc : Later b c) : Later a c where
  grows := hab.grows.trans hbc.grows
  closed link hlink hclosed := by
    obtain ⟨hsame, hmem⟩ := hab.closed link hlink hclosed
    obtain ⟨hsame', hmem'⟩ := hbc.closed link hmem hclosed
    exact ⟨hsame'.trans hsame, hmem'⟩

lemma later_step (h : Sound s) (hstep : step s command = some s') :
    Later s s' := by
  -- a link that is not active is not the link that the command changes
  have hother : ∀ link ∈ s.links, link.status = .active → ∀ l ∈ s.links, l.status ≠ .active →
      l.linkId ≠ link.linkId := by
    intro link hlink hactive l hl hclosed hsame
    rw [Keyed.eq_of_key h.ids hl hlink hsame] at hclosed
    exact hclosed hactive
  rcases step_cases h.ids hstep with rfl | ⟨link, hlink, link', hcloses, rfl⟩ |
    ⟨link, cmd, now, result, hnew, rfl⟩
  · exact later_refl s'
  · refine ⟨List.prefix_refl _, fun l hl hclosed => ⟨rfl, Keyed.mem_put_of_ne hl ?_⟩⟩
    rw [hcloses.linkId]
    exact hother link hlink hcloses.active l hl hclosed
  · obtain ⟨redemptionId, intentId, hredemption⟩ := hnew.redeemed.redemption
    refine ⟨List.prefix_append _ _, fun l hl hclosed => ?_⟩
    have hne := hother link hnew.mem hnew.redeemed.active l hl hclosed
    refine ⟨?_, Keyed.mem_put_of_ne hl ?_⟩
    · rw [redemptionsOf_append, hredemption, if_neg fun hsame => hne hsame.symm, List.append_nil]
    · rw [hnew.redeemed.names.1]
      exact hne

lemma later_run (h : Sound s) (commands : List Command) : Later s (run step s commands) :=
  run_rel_all later_refl later_trans (fun _ _ _ hs hstep => sound_step hs hstep)
    (fun _ _ _ hs hstep => later_step hs hstep) commands s h

/-! ## Repetitions -/

lemma Sound.repeats (h : Sound s) {r : RedemptionRecord} (hr : r ∈ s.redemptions)
    (hlink : link ∈ s.links) (hid : link.linkId = r.linkId) (htoken : trim cmd.token = link.token)
    (hkey : trim cmd.idempotencyKey = r.idempotencyKey) (hamount : cmd.amount = r.amount)
    (clock : Clock) :
    ∃ events, redeem cmd s.links s.redemptions clock = .ok ⟨link, r, true, events⟩ := by
  have hfound : s.links.find? (·.token = trim cmd.token) = some link := by
    rw [htoken]
    exact Keyed.find?_key h.tokens hlink
  refine redeem_repeat hfound ?_ (h.named link hlink) (h.recorded r hr).1 (h.recorded r hr).2
    hamount clock
  -- among the redemptions of the link, the key occurs once
  have hmem : r ∈ s.redemptionsOf link.linkId := List.mem_filter.mpr ⟨hr, by simp [hid]⟩
  have hunique := Keyed.find?_key (h.kept link hlink).keys hmem
  rw [Office.redemptionsOf, List.find?_filter] at hunique
  rw [← hunique, hkey]
  congr 1
  funext r'
  simp

/-- **Payment links.** Over any created links with distinct identifiers and tokens, along every run:
every link agrees with its accepted redemptions (`Kept`); a link that is not active at some point
accepts no redemption after it; and a repetition of an accepted redemption then returns it. -/
theorem links_kept (links : List PaymentLink)
    (hcreated : ∀ link ∈ links, ∃ cmd token clock events,
      createLink cmd token clock = .ok ⟨link, events⟩)
    (hids : (links.map (·.linkId)).Nodup) (htokens : (links.map (·.token)).Nodup)
    (before after : List Command) :
    let s := run step (Office.start links) before
    let t := run step s after
    (∀ link ∈ t.links, Kept t link) ∧
      (∀ link ∈ s.links, link.status ≠ .active →
        t.redemptionsOf link.linkId = s.redemptionsOf link.linkId) ∧
      ∀ r ∈ s.redemptions, ∀ link ∈ t.links, link.linkId = r.linkId → ∀ cmd clock,
        trim cmd.token = link.token → trim cmd.idempotencyKey = r.idempotencyKey →
        cmd.amount = r.amount →
        ∃ events, redeem cmd t.links t.redemptions clock = .ok ⟨link, r, true, events⟩ := by
  intro s t
  have hfresh : ∀ link ∈ links, Fresh link := by
    intro link hlink
    obtain ⟨cmd, token, clock, events, hcreate⟩ := hcreated link hlink
    exact createLink_fresh hcreate
  have hs : Sound s := sound_run (sound_start hfresh hids htokens) before
  have ht : Sound t := sound_run hs after
  have hlater : Later s t := later_run hs after
  refine ⟨ht.kept, fun link hlink hclosed => (hlater.closed link hlink hclosed).1, ?_⟩
  intro r hr link hlink hid cmd clock htoken hkey hamount
  exact ht.repeats (hlater.grows.subset hr) hlink hid htoken hkey hamount clock

/-- The command for a link with a target of 10.00 that accepts partial amounts until the instant
`2000`. -/
def tenShillings : CreateLinkCommand :=
  ⟨"org", ["receivable"], .KES, some ⟨1000, .KES⟩, none, none, ⟨false, true, some (.ofTime 2000)⟩,
    some "link"⟩

def tenShillingsLink : PaymentLink :=
  ⟨"link", "org", "token-of-the-link", ["receivable"], .KES, some ⟨1000, .KES⟩, none, none,
    ⟨false, true, some (.ofTime 2000)⟩, .active, ⟨0, .KES⟩, 0, .ofTime 0, none, none, none, none⟩

def redeemAt (key : String) (amount : ℕ) (now : ℤ) : Command :=
  .redeem ⟨"token-of-the-link", key, ⟨amount, .KES⟩, none⟩ (pinnedClock (.ofTime now))

/-- Two redemptions meet the target, the repetition of the first counts once, and a third is
refused; the hypotheses of `links_kept` hold of this link. -/
theorem links_kept_completed :
    let before := [redeemAt "first" 400 100, redeemAt "first" 400 110, redeemAt "second" 600 120]
    let after := [redeemAt "third" 1 130]
    let s := run step (Office.start [tenShillingsLink]) before
    let t := run step s after
    (t.links.map fun link => (link.status, link.redeemedTotalMinor.amount, link.redemptionCount)) =
        [(.completed, 1000, 2)] ∧
      ∀ link ∈ t.links, Kept t link := by
  refine ⟨by decide +kernel, (links_kept [tenShillingsLink] ?_ (by simp) (by simp) _ _).1⟩
  intro link hlink
  obtain rfl := List.mem_singleton.mp hlink
  exact ⟨tenShillings, "token-of-the-link", pinnedClock (.ofTime 0), _,
    show createLink tenShillings "token-of-the-link" (pinnedClock (.ofTime 0)) =
      .ok ⟨tenShillingsLink,
        [linkEvent "link" (.created "link" "org" ["receivable"] .fixed (some 1000)
        none none .KES false true (some (.ofTime 2000))) (.ofTime 0)]⟩ by decide +kernel⟩

end Fuatilia.PaymentLinks
