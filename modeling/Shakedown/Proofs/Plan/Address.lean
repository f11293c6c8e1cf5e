import Mathlib.Data.List.TakeWhile
import Shakedown.Plan.Decode
import Shakedown.Proofs.Decimal.Numeral

/-!
# Addresses of probes

The address of a probe is parted at its last colon, so that a host may have colons of its own. It is accepted exactly
if there is something before that colon and the port after it is a number of 16 bits, written in decimal digits after a
plus sign or none (`Plan.probe_address_accepted_iff`). Any other text is a fault of the plan, and named as such.
-/

namespace Shakedown

open Decimal (IsNumeral)

/-- A port that writes a number of 16 bits, with a plus sign before its digits or none. -/
inductive WritesPort : List Char → Nat → Prop
  | plain {digits : List Char} {n : Nat} (numeral : IsNumeral digits n) (fits : n ≤ 65535) : WritesPort digits n
  | signed {digits : List Char} {n : Nat} (numeral : IsNumeral digits n) (fits : n ≤ 65535) :
      WritesPort ('+' :: digits) n

/-- An address is a host and a port with its number, parted at the last colon. -/
structure IsAddress (address host port : String) (number : Nat) : Prop where
  whole : address = host ++ ":" ++ port
  last : ':' ∉ port.toList
  host : host ≠ ""
  port : WritesPort port.toList number

variable {address host port : String} {n : Nat} {cs before after : List Char}

theorem portNumber?_eq_some_iff : portNumber? cs = some n ↔ WritesPort cs n := by
  rw [portNumber?, Decimal.naturalUpTo_eq_some_iff]
  constructor
  · rintro ⟨digits, rfl | rfl, numeral, fits⟩
    · exact .plain numeral fits
    · exact .signed numeral fits
  · intro h
    cases h with
    | plain numeral fits => exact ⟨_, Or.inl rfl, numeral, fits⟩
    | signed numeral fits => exact ⟨_, Or.inr rfl, numeral, fits⟩

/-- Texts are parted at the last colon: there is none after it. -/
theorem splitAtLastColon_eq_some_iff :
    splitAtLastColon cs = some (before, after) ↔ cs = before ++ ':' :: after ∧ ':' ∉ after := by
  constructor
  · intro h
    unfold splitAtLastColon at h
    dsimp only at h
    split at h
    · cases h
    · -- What stands before the last colon is what comes after it in reverse.
      rename_i colon rest dropped
      cases h
      have parted := List.takeWhile_append_dropWhile (p := (· != ':')) (l := cs.reverse)
      have found : (colon != ':') = false := by
        have head := List.head?_dropWhile_not (· != ':') cs.reverse
        simpa [dropped] using head
      obtain rfl : colon = ':' := by simpa using found
      rw [dropped] at parted
      constructor
      · simpa using (congrArg List.reverse parted).symm
      · intro later
        simpa using List.mem_takeWhile_imp (List.mem_reverse.mp later)
  · rintro ⟨rfl, none⟩
    -- Nothing is left out after the last colon, for there is no colon there.
    have skips : ∀ c ∈ after.reverse, (c != ':') = true := by
      intro c hc
      rw [bne_iff_ne]
      rintro rfl
      exact none (List.mem_reverse.mp hc)
    have reversed : (before ++ ':' :: after).reverse = after.reverse ++ ':' :: before.reverse := by simp
    have skipped : (after.reverse ++ ':' :: before.reverse).dropWhile (· != ':') = ':' :: before.reverse := by
      rw [List.dropWhile_append_of_pos skips, List.dropWhile_cons_of_neg (by simp)]
    have taken : (after.reverse ++ ':' :: before.reverse).takeWhile (· != ':') = after.reverse := by
      rw [List.takeWhile_append_of_pos skips, List.takeWhile_cons_of_neg (by simp), List.append_nil]
    unfold splitAtLastColon
    simp only [reversed, skipped, taken, List.reverse_reverse]

/-- An address is read as the host and the number of the port that it is written with. -/
theorem tcpAddress?_eq_some_iff : tcpAddress? address = some (host, n) ↔ ∃ port, IsAddress address host port n := by
  have parted : ∀ after,
      address.toList = host.toList ++ ':' :: after ↔ address = host ++ ":" ++ String.ofList after := by
    intro after
    rw [← String.toList_inj]
    simp
  unfold tcpAddress?
  rw [Option.bind_eq_bind, Option.bind_eq_some_iff]
  constructor
  · rintro ⟨⟨before, after⟩, split, rest⟩
    obtain ⟨whole, last⟩ := splitAtLastColon_eq_some_iff.mp split
    cases before with
    | nil => cases rest
    | cons c before =>
      obtain ⟨number, read, same⟩ := Option.bind_eq_some_iff.mp rest
      cases same
      refine ⟨String.ofList after, ?_, by simpa using last, by simp [← String.toList_inj], ?_⟩
      · exact (parted after).mp (by simpa using whole)
      · rw [String.toList_ofList]
        exact portNumber?_eq_some_iff.mp read
  · rintro ⟨port, whole, last, some_host, written⟩
    have found : splitAtLastColon address.toList = some (host.toList, port.toList) :=
      splitAtLastColon_eq_some_iff.mpr ⟨(parted _).mpr (by simpa using whole), last⟩
    have filled : host.toList.isEmpty = false := by simpa using some_host
    refine ⟨_, found, ?_⟩
    simp [filled, portNumber?_eq_some_iff.mpr written]

namespace Plan

/-- The address of a probe is accepted exactly if it is a host and a port, parted at its last colon: the host is not
empty, and the port writes a number of at most 16 bits in decimal digits, with a plus sign before them or none and with
as many zeros as there may be. Every other text is refused, with an error of the configuration that quotes it. -/
theorem probe_address_accepted_iff (address : String) :
    (checkProbe (some (.tcp address)) = .ok () ↔ ∃ host port n, IsAddress address host port n) ∧
    (checkProbe (some (.tcp address)) = .error (.badAddress address) ↔
      ¬ ∃ host port n, IsAddress address host port n) ∧
    (ParseError.invalid (.badAddress address)).toFailure =
      .configuration ("tcp probe address '" ++ address ++ "' must be of the form host:port") := by
  have read : (tcpAddress? address).isSome = true ↔ ∃ host port n, IsAddress address host port n := by
    rw [Option.isSome_iff_exists]
    constructor
    · rintro ⟨⟨host, n⟩, found⟩
      obtain ⟨port, h⟩ := tcpAddress?_eq_some_iff.mp found
      exact ⟨host, port, n, h⟩
    · rintro ⟨host, port, n, h⟩
      exact ⟨(host, n), tcpAddress?_eq_some_iff.mpr ⟨port, h⟩⟩
  rw [← read, checkProbe]
  refine ⟨?_, ?_, rfl⟩
  · by_cases h : (tcpAddress? address).isSome = true
    · simp [h]
    · simp [h]
  · by_cases h : (tcpAddress? address).isSome = true
    · simp [h]
    · simp [h]

/-- A host with colons, and a port with a sign and zeros. -/
example : tcpAddress? "[::1]:+008080" = some ("[::1]", 8080) := by decide +kernel

end Plan
end Shakedown
