import CallGate.Bytes

/-! Numbers in base 128, least digit first; every octet but the last carries the high bit. A number
of 64 bits takes at most ten octets. -/

namespace CallGate.Wire

/-- The shortest form of a number. -/
def putVarint (n : Nat) : Bytes :=
  if n < 128 then [UInt8.ofNat n] else UInt8.ofNat (n % 128 + 128) :: putVarint (n / 128)

/-- How many octets the shortest form takes. -/
def varintLength (n : Nat) : Nat := if n < 128 then 1 else varintLength (n / 128) + 1

/-- Reads at most `left + 1` octets, of which the last possible one holds a single bit. Longer than
necessary forms are read as well. -/
def getVarintWithin : Nat → Bytes → Option (Nat × Bytes)
  | _, [] => none
  | 0, b :: rest => if b.toNat ≤ 1 then some (b.toNat, rest) else none
  | left + 1, b :: rest =>
      if b.toNat < 128 then some (b.toNat, rest)
      else (getVarintWithin left rest).map fun p => (b.toNat - 128 + 128 * p.1, p.2)

/-- Reads a number of 64 bits and gives the octets after it. -/
def getVarint (b : Bytes) : Option (Nat × Bytes) := getVarintWithin 9 b

theorem getVarintWithin_shorter {left : Nat} {b : Bytes} {n : Nat} {rest : Bytes}
    (h : getVarintWithin left b = some (n, rest)) : rest.length < b.length := by
  induction b generalizing left n rest with
  | nil => cases left <;> simp [getVarintWithin] at h
  | cons c cs ih =>
    cases left with
    | zero =>
      simp only [getVarintWithin] at h
      split at h <;> simp_all
    | succ left =>
      simp only [getVarintWithin] at h
      split at h
      · simp_all
      · obtain ⟨⟨m, r⟩, hp, heq⟩ := Option.map_eq_some_iff.1 h
        have := ih hp
        simp only [Prod.mk.injEq] at heq
        obtain ⟨-, rfl⟩ := heq
        simp only [List.length_cons]
        omega

theorem getVarint_shorter {b : Bytes} {n : Nat} {rest : Bytes}
    (h : getVarint b = some (n, rest)) : rest.length < b.length := getVarintWithin_shorter h

theorem putVarint_length (n : Nat) : (putVarint n).length = varintLength n := by
  fun_induction putVarint n with
  | case1 n h => simp [varintLength, h]
  | case2 n h ih => rw [varintLength, if_neg h, List.length_cons, ih]

theorem octet_toNat {n : Nat} (h : n < 256) : (UInt8.ofNat n).toNat = n :=
  UInt8.toNat_ofNat_of_lt' h

/-- The least number that needs more than `left` octets and a bit. -/
def varintBound : Nat → Nat
  | 0 => 2
  | left + 1 => 128 * varintBound left

theorem varintBound_pos (left : Nat) : 0 < varintBound left := by
  induction left with
  | zero => decide
  | succ left ih => exact Nat.mul_pos (by decide) ih

/-- The shortest form of a number is read back just if the octets that it takes may be read. -/
theorem getVarintWithin_putVarint (left n : Nat) (rest : Bytes) :
    getVarintWithin left (putVarint n ++ rest) =
      if n < varintBound left then some (n, rest) else none := by
  induction left generalizing n with
  | zero =>
    have bound : varintBound 0 = 2 := rfl
    rw [bound, putVarint]
    split
    · have hb : (UInt8.ofNat n).toNat = n := octet_toNat (by omega)
      simp only [List.cons_append, List.nil_append, getVarintWithin, hb]
      exact ite_congr (propext (by omega)) (fun _ => rfl) fun _ => rfl
    · have hb : (UInt8.ofNat (n % 128 + 128)).toNat = n % 128 + 128 :=
        octet_toNat (by omega)
      simp only [List.cons_append, getVarintWithin, hb]
      rw [if_neg (by omega), if_neg (by omega)]
  | succ left ih =>
    have pos := varintBound_pos left
    rw [varintBound, putVarint]
    split
    · have hb : (UInt8.ofNat n).toNat = n := octet_toNat (by omega)
      simp only [List.cons_append, List.nil_append, getVarintWithin, hb]
      rw [if_pos (by omega), if_pos (by omega)]
    · have hb : (UInt8.ofNat (n % 128 + 128)).toNat = n % 128 + 128 :=
        octet_toNat (by omega)
      simp only [List.cons_append, getVarintWithin, hb, ih]
      rw [if_neg (by omega)]
      by_cases h : n < 128 * varintBound left
      · have digits : n % 128 + 128 - 128 + 128 * (n / 128) = n := by omega
        rw [if_pos h, if_pos (by omega), Option.map_some, digits]
      · rw [if_neg h, if_neg (by omega), Option.map_none]

theorem getVarint_putVarint (n : Nat) (rest : Bytes) :
    getVarint (putVarint n ++ rest) = if n < UInt64.size then some (n, rest) else none :=
  getVarintWithin_putVarint 9 n rest

end CallGate.Wire
