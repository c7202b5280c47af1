import CallGate.Base64
import Mathlib.Data.List.Basic

/-! Which texts are Base64. A text is read as the octets that it encodes, and as no others; padding may
be left out in whole or in part. Octets have one text but for its padding. -/

namespace CallGate.Base64

/-- The text encodes the octets, with any amount of padding up to that of a full last group. -/
def Encodes (octets text : Bytes) : Prop :=
  ∃ k ≤ fullPadding octets.length, text = encode octets ++ List.replicate k pad

/-- The digits that octets are written with. -/
def sextets : Bytes → List Nat
  | a :: b :: c :: rest =>
      a.toNat / 4 :: (a.toNat % 4 * 16 + b.toNat / 16) :: (b.toNat % 16 * 4 + c.toNat / 64) ::
        c.toNat % 64 :: sextets rest
  | [a, b] => [a.toNat / 4, a.toNat % 4 * 16 + b.toNat / 16, b.toNat % 16 * 4]
  | [a] => [a.toNat / 4, a.toNat % 4 * 16]
  | [] => []

theorem encode_eq_map (octets : Bytes) : encode octets = (sextets octets).map symbol := by
  fun_induction encode octets with
  | case1 a b c rest ih => simp [sextets, ih]
  | case2 | case3 | case4 => rfl

theorem sextets_lt (octets : Bytes) : ∀ d ∈ sextets octets, d < 64 := by
  fun_induction sextets octets with
  | case1 a b c rest ih =>
    have ha := a.toNat_lt
    have hb := b.toNat_lt
    have hc := c.toNat_lt
    simp only [List.forall_mem_cons]
    exact ⟨by omega, by omega, by omega, by omega, ih⟩
  | case2 a b =>
    have ha := a.toNat_lt
    have hb := b.toNat_lt
    simp only [List.forall_mem_cons]
    exact ⟨by omega, by omega, by omega, nofun⟩
  | case3 a =>
    have ha := a.toNat_lt
    simp only [List.forall_mem_cons]
    exact ⟨by omega, by omega, nofun⟩
  | case4 => nofun

@[simp] theorem length_sextets (octets : Bytes) :
    (sextets octets).length = (4 * octets.length + 2) / 3 := by
  fun_induction sextets octets with
  | case1 a b c rest ih =>
    simp only [List.length_cons, ih]
    omega
  | case2 | case3 | case4 => simp

@[simp] theorem length_encode (octets : Bytes) :
    (encode octets).length = (4 * octets.length + 2) / 3 := by
  rw [encode_eq_map, List.length_map, length_sextets]

theorem le_fullPadding_iff {k n : Nat} :
    k ≤ fullPadding n ↔ k = 0 ∨ n % 3 = 1 ∧ k ≤ 2 ∨ n % 3 = 2 ∧ k ≤ 1 := by
  have cases : n % 3 = 0 ∨ n % 3 = 1 ∨ n % 3 = 2 := by omega
  unfold fullPadding
  rcases cases with h | h | h <;> rw [h] <;> omega

theorem encode_append {group : Bytes} (full : group.length = 3) (more : Bytes) :
    encode (group ++ more) = encode group ++ encode more := by
  obtain ⟨x, y, z, rfl⟩ := List.length_eq_three.1 full
  rfl

theorem toNat_symbol : ∀ d < 64, (symbol d).toNat =
    if d < 26 then d + 65 else if d < 52 then d + 71 else if d < 62 then d - 4
    else if d = 62 then 43 else 47 := by decide

/-- An octet stands for a digit just if it is the symbol of that digit. -/
theorem digit?_eq_some_iff {c : UInt8} {d : Nat} : digit? c = some d ↔ d < 64 ∧ c = symbol d := by
  constructor
  · intro h
    have lt : d < 64 := by grind [digit?]
    refine ⟨lt, UInt8.toNat_inj.1 ?_⟩
    rw [toNat_symbol d lt]
    grind [digit?]
  · rintro ⟨lt, rfl⟩
    exact digit?_symbol d lt

/-- The symbols in the order of their digits. -/
example : (List.range 64).map symbol = Bytes.ofText
    "ABCDEFGHIJKLMNOPQRSTUVWXYZabcdefghijklmnopqrstuvwxyz0123456789+/" := by decide

theorem symbol_ne_pad {d : Nat} (lt : d < 64) : symbol d ≠ pad := by
  intro same
  have read := digit?_symbol d lt
  rw [same, digit?_pad] at read
  cases read

theorem ne_pad_of_mem_encode {octets : Bytes} {c : UInt8} (h : c ∈ encode octets) : c ≠ pad := by
  rw [encode_eq_map] at h
  obtain ⟨d, hd, rfl⟩ := List.mem_map.1 h
  exact symbol_ne_pad (sextets_lt octets d hd)

private theorem bind_eq_ok_iff {α β : Type} {x : Except Fault α} {f : α → Except Fault β} {r : β} :
    (x >>= f) = .ok r ↔ ∃ a, x = .ok a ∧ f a = .ok r := by
  cases x with
  | error cause => exact ⟨nofun, nofun⟩
  | ok a =>
    constructor
    · intro h
      exact ⟨a, rfl, h⟩
    · rintro ⟨_, ⟨⟩, h⟩
      exact h

theorem digitAt_eq_ok_iff {offset : Nat} {c : UInt8} {d : Nat} :
    digitAt offset c = .ok d ↔ d < 64 ∧ c = symbol d := by
  rw [← digit?_eq_some_iff, digitAt]
  cases digit? c <;> simp

theorem digitsFrom_eq_ok_iff {offset : Nat} {symbols : Bytes} {digits : List Nat} :
    digitsFrom offset symbols = .ok digits ↔
      (∀ d ∈ digits, d < 64) ∧ symbols = digits.map symbol := by
  induction symbols generalizing offset digits with
  | nil => cases digits <;> simp [digitsFrom]
  | cons c symbols ih =>
    simp only [digitsFrom, bind_eq_ok_iff, digitAt_eq_ok_iff, ih]
    constructor
    · rintro ⟨d, ⟨lt, rfl⟩, rest, ⟨all, rfl⟩, ⟨⟩⟩
      exact ⟨List.forall_mem_cons.2 ⟨lt, all⟩, rfl⟩
    · rintro ⟨all, same⟩
      cases digits with
      | nil => cases same
      | cons d rest =>
        obtain ⟨lt, all⟩ := List.forall_mem_cons.1 all
        obtain ⟨rfl, rfl⟩ := List.cons.inj same
        exact ⟨d, ⟨lt, rfl⟩, rest, ⟨all, rfl⟩, rfl⟩

/-- A group is joined to no octets but those that are written with its digits. -/
theorem eq_sextets_of_joinLast {offset : Nat} {symbols octets : Bytes} {digits : List Nat}
    (lt : ∀ d ∈ digits, d < 64) (short : digits.length ≤ 4)
    (h : joinLast offset symbols digits = .ok octets) : digits = sextets octets := by
  match digits, short with
  | [], _ =>
    cases h
    rfl
  | [x], _ => cases h
  | [x, y], _ =>
    simp only [List.forall_mem_cons] at lt
    simp only [joinLast] at h
    split at h
    · cases h
      simp only [sextets, UInt8.toNat_ofNat', List.cons.injEq, and_true]
      omega
    · cases h
  | [x, y, z], _ =>
    simp only [List.forall_mem_cons] at lt
    simp only [joinLast] at h
    split at h
    · cases h
      simp only [sextets, UInt8.toNat_ofNat', List.cons.injEq, and_true]
      omega
    · cases h
  | [x, y, z, w], _ =>
    simp only [List.forall_mem_cons] at lt
    cases h
    simp only [join, sextets, UInt8.toNat_ofNat', List.cons.injEq, and_true]
    omega

/-- The digits of up to three octets are joined to these. -/
theorem joinLast_sextets {octets : Bytes} (short : octets.length ≤ 3) (offset : Nat)
    (symbols : Bytes) : joinLast offset symbols (sextets octets) = .ok octets := by
  match octets, short with
  | [], _ => rfl
  | [a], _ =>
    have ha := a.toNat_lt
    have first : a.toNat / 4 * 4 + a.toNat % 4 * 16 / 16 = a.toNat := by omega
    rw [sextets, joinLast, if_pos (by omega), first, UInt8.ofNat_toNat]
  | [a, b], _ =>
    have ha := a.toNat_lt
    have hb := b.toNat_lt
    have first : a.toNat / 4 * 4 + (a.toNat % 4 * 16 + b.toNat / 16) / 16 = a.toNat := by omega
    have second : (a.toNat % 4 * 16 + b.toNat / 16) % 16 * 16 + b.toNat % 16 * 4 / 4 =
      b.toNat := by omega
    rw [sextets, joinLast, if_pos (by omega), first, second, UInt8.ofNat_toNat, UInt8.ofNat_toNat]
  | [a, b, c], _ =>
    have ha := a.toNat_lt
    have hb := b.toNat_lt
    have hc := c.toNat_lt
    have first : a.toNat / 4 * 4 + (a.toNat % 4 * 16 + b.toNat / 16) / 16 = a.toNat := by omega
    have second : (a.toNat % 4 * 16 + b.toNat / 16) % 16 * 16 +
      (b.toNat % 16 * 4 + c.toNat / 64) / 4 = b.toNat := by omega
    have third : (b.toNat % 16 * 4 + c.toNat / 64) % 4 * 64 + c.toNat % 64 = c.toNat := by omega
    simp only [sextets, joinLast, join, first, second, third, UInt8.ofNat_toNat]

theorem decodeGroup_eq (offset : Nat) (a b c d : UInt8) : decodeGroup offset a b c d =
    digitsFrom offset [a, b, c, d] >>= joinLast offset [a, b, c, d] := by
  simp only [decodeGroup, digitsFrom]
  cases digitAt offset a with
  | error => rfl
  | ok x =>
    cases digitAt (offset + 1) b with
    | error => rfl
    | ok y =>
      cases digitAt (offset + 2) c with
      | error => rfl
      | ok z => cases digitAt (offset + 3) d <;> rfl

/-- Symbols are read as the octets that they encode. -/
theorem joined_eq_ok_iff {offset : Nat} {symbols octets : Bytes} (short : symbols.length ≤ 4) :
    (digitsFrom offset symbols >>= joinLast offset symbols) = .ok octets ↔
      symbols = encode octets := by
  simp only [bind_eq_ok_iff, digitsFrom_eq_ok_iff]
  constructor
  · rintro ⟨digits, ⟨lt, rfl⟩, joined⟩
    rw [List.length_map] at short
    rw [eq_sextets_of_joinLast lt short joined, encode_eq_map]
  · rintro rfl
    rw [length_encode] at short
    have three : octets.length ≤ 3 := by omega
    exact ⟨sextets octets, ⟨sextets_lt octets, encode_eq_map octets⟩, joinLast_sextets three _ _⟩

theorem decodeGroup_eq_ok_iff {offset : Nat} {a b c d : UInt8} {octets : Bytes} :
    decodeGroup offset a b c d = .ok octets ↔ [a, b, c, d] = encode octets := by
  rw [decodeGroup_eq]
  exact joined_eq_ok_iff (Nat.le_refl 4)

/-- What follows the symbols of a last group has to be padding, after two symbols at least. -/
theorem decodeLast_eq_ok_iff_joined {offset : Nat} {group octets : Bytes} :
    decodeLast offset group = .ok octets ↔
      (group.dropWhile (· != pad) = [] ∨ 2 ≤ (group.takeWhile (· != pad)).length ∧
        ∀ c ∈ group.dropWhile (· != pad), c = pad) ∧
      (digitsFrom offset (group.takeWhile (· != pad)) >>=
        joinLast offset (group.takeWhile (· != pad))) = .ok octets := by
  simp only [decodeLast, bind_eq_ok_iff]
  generalize group.takeWhile (· != pad) = symbols, group.dropWhile (· != pad) = rest
  have misplaced : (rest ≠ [] ∧ (symbols.length < 2 ∨ rest.any (· != pad) = true)) ↔
      ¬ (rest = [] ∨ 2 ≤ symbols.length ∧ ∀ c ∈ rest, c = pad) := by
    simp [Decidable.imp_iff_not_or]
  simp only [misplaced]
  by_cases placed : rest = [] ∨ 2 ≤ symbols.length ∧ ∀ c ∈ rest, c = pad
  · simp only [placed, not_true, if_false, true_and]
  · simp only [placed, not_false_eq_true, if_true, false_and, iff_false]
    rintro ⟨digits, -, failed⟩
    cases failed

/-- Padding starts where the symbols end. -/
theorem symbols_padded (octets : Bytes) (k : Nat) :
    (encode octets ++ List.replicate k pad).takeWhile (· != pad) = encode octets ∧
      (encode octets ++ List.replicate k pad).dropWhile (· != pad) = List.replicate k pad := by
  have keep : ∀ c ∈ encode octets, (c != pad) = true := by
    intro c hc
    simpa using ne_pad_of_mem_encode hc
  rw [List.takeWhile_append_of_pos keep, List.dropWhile_append_of_pos keep]
  simp

theorem decodeLast_eq_ok_iff {offset : Nat} {group octets : Bytes} (short : group.length ≤ 4) :
    decodeLast offset group = .ok octets ↔ Encodes octets group := by
  rw [decodeLast_eq_ok_iff_joined]
  constructor
  · rintro ⟨placed, joined⟩
    have whole : group.takeWhile (· != pad) ++ group.dropWhile (· != pad) = group :=
      List.takeWhile_append_dropWhile
    generalize group.takeWhile (· != pad) = symbols, group.dropWhile (· != pad) = rest at *
    subst whole
    rw [List.length_append] at short
    obtain rfl := (joined_eq_ok_iff (by omega)).1 joined
    rw [length_encode] at short placed
    refine ⟨rest.length, ?_, ?_⟩
    · rw [le_fullPadding_iff]
      rcases placed with rfl | ⟨two, -⟩
      · exact .inl rfl
      · omega
    · congr 1
      apply List.eq_replicate_of_mem
      rcases placed with rfl | ⟨-, pads⟩
      · nofun
      · exact pads
  · rintro ⟨k, full, rfl⟩
    obtain ⟨symbols, padding⟩ := symbols_padded octets k
    rw [List.length_append, length_encode] at short
    rw [symbols, padding]
    refine ⟨?_, (joined_eq_ok_iff (by rw [length_encode]; omega)).2 rfl⟩
    rw [length_encode]
    rcases Nat.eq_zero_or_pos k with rfl | some
    · exact .inl rfl
    · rw [le_fullPadding_iff] at full
      exact .inr ⟨by omega, fun c hc => List.eq_of_mem_replicate hc⟩

theorem Encodes.length_mod {octets text : Bytes} (h : Encodes octets text) :
    text.length % 4 ≠ 1 := by
  obtain ⟨k, full, rfl⟩ := h
  rw [le_fullPadding_iff] at full
  rw [List.length_append, length_encode, List.length_replicate]
  omega

/-- All groups but the last are full. -/
theorem encodes_group_iff {octets rest : Bytes} {a b c d e : UInt8} :
    Encodes octets (a :: b :: c :: d :: e :: rest) ↔ ∃ group more, octets = group ++ more ∧
      [a, b, c, d] = encode group ∧ Encodes more (e :: rest) := by
  constructor
  · rintro ⟨k, full, text⟩
    have length := congrArg List.length text
    simp only [List.length_append, length_encode, List.length_replicate, List.length_cons] at length
    rw [le_fullPadding_iff] at full
    match octets with
    -- Fewer octets have no more than four symbols, their padding counted.
    | [] | [_] | [_, _] =>
      simp only [List.length_cons, List.length_nil] at full length
      omega
    | x :: y :: z :: more =>
      have padding : k ≤ fullPadding more.length := by
        simp only [List.length_cons] at full
        rw [le_fullPadding_iff]
        omega
      have groups := encode_append (Eq.refl [x, y, z].length) more
      rw [List.cons_append, List.cons_append, List.cons_append, List.nil_append] at groups
      rw [groups, List.append_assoc] at text
      have split : [a, b, c, d] ++ e :: rest =
          encode [x, y, z] ++ (encode more ++ List.replicate k pad) := text
      obtain ⟨first, last⟩ := List.append_inj split rfl
      exact ⟨[x, y, z], more, rfl, first, k, padding, last⟩
  · rintro ⟨group, more, rfl, first, k, full, last⟩
    have length := congrArg List.length first
    simp only [length_encode, List.length_cons, List.length_nil] at length
    have three : group.length = 3 := by omega
    refine ⟨k, ?_, ?_⟩
    · rw [le_fullPadding_iff] at full ⊢
      rw [List.length_append]
      omega
    · rw [encode_append three, ← first, List.append_assoc, ← last]
      rfl

theorem decodeFrom_eq_ok_iff {offset : Nat} {text octets : Bytes} :
    decodeFrom offset text = .ok octets ↔ Encodes octets text := by
  fun_induction decodeFrom offset text generalizing octets with
  | case1 offset a b c d e rest ih =>
    simp only [bind_eq_ok_iff, decodeGroup_eq_ok_iff, ih, encodes_group_iff]
    constructor
    · rintro ⟨group, first, more, last, ⟨⟩⟩
      exact ⟨group, more, rfl, first, last⟩
    · rintro ⟨group, more, rfl, first, last⟩
      exact ⟨group, first, more, last, rfl⟩
  | case2 offset group short =>
    apply decodeLast_eq_ok_iff
    match group, short with
    | [], _ | [_], _ | [_, _], _ | [_, _, _], _ | [_, _, _, _], _ => simp
    | a :: b :: c :: d :: e :: rest, short => exact absurd rfl (short a b c d e rest)

/-- A text is read as the octets that it encodes. -/
theorem decode_eq_ok_iff {text octets : Bytes} : decode text = .ok octets ↔ Encodes octets text := by
  have stray (c : UInt8) (h : strayEnd? text = some c) : text.length % 4 = 1 := by
    unfold strayEnd? at h
    split at h
    · next one => exact one
    · cases h
  unfold decode
  split
  · next c end? =>
    constructor
    · nofun
    · intro encodes
      exact absurd (stray c end?) encodes.length_mod
  · exact decodeFrom_eq_ok_iff

/-- A text has one reading at most. -/
theorem Encodes.unique {octets other text : Bytes} (h : Encodes octets text)
    (h' : Encodes other text) : octets = other :=
  Except.ok.inj ((decode_eq_ok_iff.2 h).symm.trans (decode_eq_ok_iff.2 h'))

end CallGate.Base64
