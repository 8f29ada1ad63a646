import Fuatilia.Payments.IntakeRuns

/-!
# Identifiers of payments

An intake without an identifier of its own derives one from its channel and key, by a hash that
reads the low byte of each UTF-16 code unit.

## Main definitions

* `OneApart`, `ByteApart` — keys that differ in one character, and in its low byte.

## Main results

* `payment_ids_distinct` — keys that differ in one low byte get different identifiers.
* `high_byte_collision` — and the same one where the low bytes agree.
-/

namespace Fuatilia.Payments

open Fallible Machine

/-! ## The hash -/

def lowBytes (s : String) : List ℕ := (codeUnits s).map (· % 0x100)

def fnvStep (hash byte : ℕ) : ℕ := (hash ^^^ byte) * 0x01000193 % 0x100000000

lemma fnv1a32_eq (round : ℕ) (s : String) :
    fnv1a32 round s = (lowBytes s).foldl fnvStep (0x811c9dc5 ^^^ round) := by
  rw [fnv1a32, lowBytes, List.foldl_map]
  rfl

lemma fnvStep_lt (hash byte : ℕ) : fnvStep hash byte < 0x100000000 := Nat.mod_lt _ (by decide)

variable {a b h : ℕ}

lemma mul_cancel (ha : a < 0x100000000) (hb : b < 0x100000000)
    (h : a * 0x01000193 % 0x100000000 = b * 0x01000193 % 0x100000000) : a = b := by
  have hmod : a ≡ b [MOD 0x100000000] := Nat.ModEq.cancel_right_of_coprime (by norm_num) h
  rwa [Nat.ModEq, Nat.mod_eq_of_lt ha, Nat.mod_eq_of_lt hb] at hmod

lemma xor_lt (ha : a < 0x100000000) (hb : b < 0x100) : a ^^^ b < 0x100000000 :=
  Nat.xor_lt_two_pow (n := 32) (by omega) (by omega)

lemma xor_div (hb : b < 0x100) : (a ^^^ b) / 0x100 = a / 0x100 := by
  rw [show (0x100 : ℕ) = 2 ^ 8 from rfl, Nat.xor_div_two_pow, Nat.div_eq_of_lt hb, Nat.xor_zero]

lemma fnvStep_inj {h' byte : ℕ} (hh : h < 0x100000000) (hh' : h' < 0x100000000)
    (hb : byte < 0x100) (heq : fnvStep h byte = fnvStep h' byte) : h = h' :=
  Nat.xor_left_inj.mp (mul_cancel (xor_lt hh hb) (xor_lt hh' hb) heq)

lemma foldl_fnvStep_inj {bytes : List ℕ} (hbytes : ∀ b ∈ bytes, b < 0x100) {h' : ℕ}
    (hh : h < 0x100000000) (hh' : h' < 0x100000000)
    (heq : bytes.foldl fnvStep h = bytes.foldl fnvStep h') : h = h' := by
  induction bytes generalizing h h' with
  | nil => exact heq
  | cons b bytes ih =>
    rw [List.forall_mem_cons] at hbytes
    exact fnvStep_inj hh hh' hbytes.1 (ih hbytes.2 (fnvStep_lt _ _) (fnvStep_lt _ _) heq)

lemma eq_zero_of_near {d e m : ℤ} (hd : -0x100 < d) (hd' : d < 0x100) (he : -0x100 < e)
    (he' : e < 0x100) (h : d * 0x01000193 = e + 0x100000000 * m) : d = 0 := by
  have hfar : d * 403 - e = 0x1000000 * (256 * m - d) := by linarith
  generalize 256 * m - d = q at hfar
  omega

lemma fnvStep_two_inj {a' b' : ℕ} (ha : a < 0x100) (ha' : a' < 0x100) (hb : b < 0x100)
    (hb' : b' < 0x100) (heq : fnvStep (fnvStep h a) b = fnvStep (fnvStep h a') b') :
    a = a' ∧ b = b' := by
  have hxor : fnvStep h a ^^^ b = fnvStep h a' ^^^ b' :=
    mul_cancel (xor_lt (fnvStep_lt _ _) hb) (xor_lt (fnvStep_lt _ _) hb') heq
  have hnear : fnvStep h a / 0x100 = fnvStep h a' / 0x100 := by rw [← xor_div hb, hxor, xor_div hb']
  have hstart : (h ^^^ a) / 0x100 = (h ^^^ a') / 0x100 := by rw [xor_div ha, xor_div ha']
  have hsmall : ∀ {x y : ℕ}, x / 0x100 = y / 0x100 →
      -0x100 < (x : ℤ) - y ∧ (x : ℤ) - y < 0x100 := by
    intro x y hxy
    omega
  have hsame : ((h ^^^ a : ℕ) : ℤ) - (h ^^^ a' : ℕ) = 0 := by
    refine eq_zero_of_near (hsmall hstart).1 (hsmall hstart).2 (hsmall hnear).1 (hsmall hnear).2
      (m := ((h ^^^ a) * 0x01000193 / 0x100000000 : ℕ) -
        ((h ^^^ a') * 0x01000193 / 0x100000000 : ℕ)) ?_
    have hk := Nat.div_add_mod ((h ^^^ a) * 0x01000193) 0x100000000
    have hl := Nat.div_add_mod ((h ^^^ a') * 0x01000193) 0x100000000
    rw [← fnvStep] at hk hl
    zify at hk hl
    push_cast
    linarith
  obtain rfl : a = a' := Nat.xor_right_inj.mp (Nat.cast_injective (sub_eq_zero.mp hsame))
  exact ⟨rfl, Nat.xor_right_inj.mp hxor⟩

lemma fnvStep_char_inj {u v : List ℕ} (hh : h < 0x100000000) (hu : ∀ b ∈ u, b < 0x100)
    (hv : ∀ b ∈ v, b < 0x100) (hlength : u.length = v.length) (htwo : u.length ≤ 2)
    (heq : u.foldl fnvStep h = v.foldl fnvStep h) : u = v := by
  -- the fold is taken apart by rewriting: to compare it by computation would unfold the division
  rcases u with _ | ⟨a, _ | ⟨b, _ | ⟨c, u⟩⟩⟩
  · exact (List.length_eq_zero_iff.mp hlength.symm).symm
  · obtain ⟨a', rfl⟩ := List.length_eq_one_iff.mp hlength.symm
    rw [List.foldl_cons, List.foldl_nil, List.foldl_cons, List.foldl_nil] at heq
    have hxor := mul_cancel (xor_lt hh (hu a (by simp))) (xor_lt hh (hv a' (by simp))) heq
    rw [Nat.xor_right_inj.mp hxor]
  · obtain ⟨a', b', rfl⟩ := List.length_eq_two.mp hlength.symm
    rw [List.foldl_cons, List.foldl_cons, List.foldl_nil, List.foldl_cons, List.foldl_cons,
      List.foldl_nil] at heq
    obtain ⟨rfl, rfl⟩ := fnvStep_two_inj (hu a (by simp)) (hv a' (by simp)) (hu b (by simp))
      (hv b' (by simp)) heq
    rfl
  · simp at htwo

lemma foldl_fnvStep_lt (bytes : List ℕ) (hh : h < 0x100000000) :
    bytes.foldl fnvStep h < 0x100000000 := by
  cases bytes using List.reverseRecOn with
  | nil => exact hh
  | append_singleton bytes b =>
    rw [List.foldl_append, List.foldl_cons, List.foldl_nil]
    exact fnvStep_lt _ _

/-! ## The digits -/

def hexDigit (c : Char) : ℕ := if c.toNat < 97 then c.toNat - 48 else c.toNat - 87

def hexValue (digits : List Char) : ℕ := digits.foldl (fun v c => v * 16 + hexDigit c) 0

lemma hexValue_toDigits (n : ℕ) : hexValue (Nat.toDigits 16 n) = n := by
  have hdigit : ∀ k < 16, hexDigit (Nat.digitChar k) = k := by decide
  induction n using Nat.strong_induction_on with
  | _ n ih =>
    rw [Nat.toDigits_eq_if (by decide)]
    split_ifs with hlt
    · simpa [hexValue] using hdigit n hlt
    · have hrest := ih (n / 16) (by omega)
      rw [hexValue, List.foldl_append, ← hexValue, hrest]
      simp only [List.foldl_cons, List.foldl_nil, hdigit (n % 16) (Nat.mod_lt _ (by decide))]
      omega

lemma hexValue_hexWord (n : ℕ) : hexValue (hexWord n).toList = n := by
  have hzeros : ∀ k, (List.replicate k '0').foldl (fun v c => v * 16 + hexDigit c) 0 = 0 := by
    intro k
    induction k with
    | zero => rfl
    | succ k ih => simpa [List.replicate_succ, hexDigit] using ih
  simp only [hexWord, padStart, String.toList_append, String.toList_ofList, hexValue,
    List.foldl_append, hzeros]
  exact hexValue_toDigits n

lemma length_hexWord {n : ℕ} (h : n < 0x100000000) : (hexWord n).toList.length = 8 := by
  have hle := Nat.toDigits_length 16 n 8 (by decide) (by omega)
  simp only [hexWord, padStart, String.toList_append, String.toList_ofList, List.length_append,
    List.length_replicate, String.length_ofList]
  omega

lemma fnv1a32_lt (s : String) : fnv1a32 0 s < 0x100000000 := by
  rw [fnv1a32_eq]
  exact foldl_fnvStep_lt _ (by norm_num)

lemma fnv1a32_of_uuidFromSeed {s s' : String} (h : uuidFromSeed s = uuidFromSeed s') :
    fnv1a32 0 s = fnv1a32 0 s' := by
  have hlists := congrArg String.toList h
  simp only [uuidFromSeed, String.toList_append, List.append_assoc] at hlists
  have hfirst := List.append_inj_left hlists
    ((length_hexWord (fnv1a32_lt s)).trans (length_hexWord (fnv1a32_lt s')).symm)
  rw [← hexValue_hexWord (fnv1a32 0 s), hfirst, hexValue_hexWord]

/-! ## Keys -/

def OneApart (k k' : String) : Prop :=
  (codeUnits k).length = (codeUnits k').length ∧ ∃ front c c' back,
    k.toList = front ++ c :: back ∧ k'.toList = front ++ c' :: back ∧ c ≠ c'

lemma length_utf16Units (c : Char) : (utf16Units c).length ≤ 2 := by
  unfold utf16Units
  split_ifs <;> simp

/-- **Seeds that differ in the low bytes of one character have different identifiers**: no later
byte brings two states of the hash together. -/
lemma uuidFromSeed_ne {start k k' : String} (hapart : OneApart k k')
    (hbytes : lowBytes k ≠ lowBytes k') :
    uuidFromSeed (start ++ k) ≠ uuidFromSeed (start ++ k') := by
  intro h
  obtain ⟨hlength, front, c, c', back, hk, hk', -⟩ := hapart
  have hhash := fnv1a32_of_uuidFromSeed h
  simp only [fnv1a32_eq, lowBytes, codeUnits, String.toList_append, hk, hk', List.flatMap_append,
    List.flatMap_cons, List.map_append, List.foldl_append] at hhash hbytes
  simp only [codeUnits, hk, hk', List.flatMap_append, List.flatMap_cons,
    List.length_append] at hlength
  have hsmall : ∀ units : List ℕ, ∀ b ∈ units.map (· % 0x100), b < 0x100 := by
    intro units b hb
    obtain ⟨unit, -, rfl⟩ := List.mem_map.mp hb
    exact Nat.mod_lt _ (by decide)
  have hbefore := foldl_fnvStep_lt (front.flatMap utf16Units |>.map (· % 0x100))
    (foldl_fnvStep_lt (start.toList.flatMap utf16Units |>.map (· % 0x100))
      (by norm_num : 0x811c9dc5 ^^^ 0 < 0x100000000))
  have hchar := foldl_fnvStep_inj (hsmall _) (foldl_fnvStep_lt _ hbefore)
    (foldl_fnvStep_lt _ hbefore) hhash
  have hsame := fnvStep_char_inj hbefore (hsmall _) (hsmall _)
    (by simp only [List.length_map]; omega) (by simpa using length_utf16Units c) hchar
  exact hbytes (by rw [hsame])

/-! ## Runs -/

def seedStart (channel : PaymentChannel) : String := s!"payment:{channel}:"

/-- The condition: the command supplies no identifier, and a stored payment whose key differs from
its key in one character came over its channel and differs in a low byte. -/
def ByteApart (stored : List Payment) (c : IntakeCommand × Clock) : Prop :=
  c.1.paymentId = none ∧ ∀ p ∈ stored, OneApart p.idempotencyKey (trim c.1.idempotencyKey) →
    p.channel = c.1.channel ∧ lowBytes p.idempotencyKey ≠ lowBytes (trim c.1.idempotencyKey)

/-- The identifiers are derived, and those of keys that differ in one character are different. -/
structure Identified (stored : List Payment) : Prop where
  derived : ∀ p ∈ stored, p.id = uuidFromSeed (seedStart p.channel ++ p.idempotencyKey)
  distinct : stored.Pairwise fun p q => OneApart p.idempotencyKey q.idempotencyKey → p.id ≠ q.id

lemma Identified.accumulate {stored stored' : List Payment} {c : IntakeCommand × Clock}
    (hc : ByteApart stored c) (hs : Identified stored)
    (h : Payments.accumulate stored c = some stored') : Identified stored' := by
  obtain ⟨r, hr, rfl⟩ := map_toOption_eq_some.mp h
  split_ifs with hduplicate
  · exact hs
  obtain ⟨refs, rfl⟩ := intakePayment_created hr (by simpa using hduplicate)
  have hderived : (createPayment c.1 (trim c.1.externalRef) (trim c.1.idempotencyKey) refs
      c.2).payment.id = uuidFromSeed (seedStart c.1.channel ++ trim c.1.idempotencyKey) := by
    simp only [createPayment, hc.1, Option.getD_none, seedStart]
    rfl
  refine ⟨Lists.forall_mem_concat hs.derived hderived,
    Lists.pairwise_concat hs.distinct fun p hp hapart => ?_⟩
  obtain ⟨hchannel, hbytes⟩ := hc.2 p hp hapart
  rw [hderived, hs.derived p hp, hchannel]
  exact uuidFromSeed_ne hapart hbytes

/-- **Identifiers of payments.** Along every run of intakes without identifiers, in which keys of
one length that differ in one character come over one channel and differ in a low byte there, the
stored payments of such keys have different identifiers. -/
theorem payment_ids_distinct (commands : List (IntakeCommand × Clock))
    (hbytes : Meets accumulate ByteApart [] commands) :
    (run accumulate [] commands).Pairwise fun p q =>
      OneApart p.idempotencyKey q.idempotencyKey → p.id ≠ q.id :=
  (run_invariant (I := Identified) (fun _ _ _ hc hs h => hs.accumulate hc h) commands []
    ⟨by simp, List.Pairwise.nil⟩ hbytes).distinct

def keyed (reference key : String) : IntakeCommand × Clock :=
  (⟨.c2b, reference, key, ⟨100, .KES⟩, none, [], none⟩, pinnedClock (.ofTime 0))

theorem payment_ids_distinct_ascii :
    (run accumulate [] [keyed "R1" "key-a", keyed "R2" "key-b"]).Pairwise fun p q =>
      OneApart p.idempotencyKey q.idempotencyKey → p.id ≠ q.id := by
  refine payment_ids_distinct _ ⟨⟨rfl, by simp⟩, ⟨rfl, fun p hp _ => ?_⟩, trivial⟩
  have hall : ∀ p ∈ next accumulate [] (keyed "R1" "key-a"), p.channel = .c2b ∧
      lowBytes p.idempotencyKey ≠ lowBytes (trim "key-b") := by decide +kernel
  exact hall p hp

/-- **Two payments of one identifier.** The keys end in `a` (U+0061) and in `š` (U+0161). -/
theorem high_byte_collision :
    OneApart "key-a" "key-š" ∧
      (run accumulate [] [keyed "R1" "key-a", keyed "R2" "key-š"]).map
          (fun p => (p.idempotencyKey, p.id)) =
        [("key-a", "23bcf065-bd92-a6f2-2880-64cfbfa2ba8c"),
          ("key-š", "23bcf065-bd92-a6f2-2880-64cfbfa2ba8c")] := by
  refine ⟨⟨by decide +kernel, "key-".toList, 'a', 'š', [], ?_, ?_, ?_⟩, ?_⟩ <;> decide +kernel

end Fuatilia.Payments
