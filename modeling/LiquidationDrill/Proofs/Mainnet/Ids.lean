import LiquidationDrill.Mainnet.Asset
import LiquidationDrill.Proofs.Text.HexBytes
import LiquidationDrill.Proofs.Text.Utf8

/-!
# Ids on the chain

An id is written in the digits of six bytes: those of the name, cut or filled up (`assetId_eq`). The cut falls between
bytes, so it may fall within a character, and names that begin with the same six bytes share an id (`assetId_inj`). An
oracle is asked for these bytes with zeros after them (`oracleId_eq`), whether the id is given as text or as bytes, and
that is the name itself only where nothing but zeros was cut. `ids_encoded` puts this together.
-/

namespace LiquidationDrill.Mainnet

open Bytes (fitted)
open Text (IsHexOf)

/-- **The id of a name is written in the digits of its first six bytes.** -/
theorem assetId_eq (name : Text) : assetId name = "0x" ++ Text.hexBytes (fitted 6 name.utf8) := by
  rw [← Text.fitted_hexBytes]
  rfl

/-- Names share an id iff they share these bytes. -/
theorem assetId_inj {name other : Text} :
    assetId name = assetId other ↔ fitted 6 name.utf8 = fitted 6 other.utf8 := by
  rw [assetId_eq, assetId_eq, List.append_cancel_left_eq, Text.hexBytes_inj]

/-- An oracle is asked for bytes with zeros after them. -/
theorem oracleId_eq (bytes : List UInt8) :
    oracleId ("0x" ++ Text.hexBytes bytes) = "0x" ++ Text.hexBytes (bytes ++ List.replicate 26 0) := by
  rw [oracleId, oracleFilling, List.append_assoc, Text.hexBytes_append, Text.hexBytes_zeros]

/-- **How names are encoded.** The id of a name is `0x` and twelve digits in lower case, which are read as the first six
bytes of the name, filled up with zeros; so two names share an id iff they share these bytes. What an oracle is asked
for, by the id or by its six bytes, is `0x` and sixty-four digits in lower case, which are read as these bytes and
twenty-six zeros. Where the name has at most thirty-two bytes, they are its own bytes, filled up with zeros, iff there
are at most six without the zeros at their end. -/
theorem ids_encoded {name : Text} (h : name.isScalar = true) :
    ∃ u, Utf8.decode u = .ok name ∧
      (∃ digits, assetId name = "0x" ++ digits ∧ IsHexOf 12 digits (fitted 6 u)) ∧
      (∀ other v, Utf8.decode v = .ok other → (assetId name = assetId other ↔ fitted 6 u = fitted 6 v)) ∧
      ∃ word, oracleIdOf (.string (assetId name)) = .ok (.string ("0x" ++ word)) ∧
        oracleIdOf (.bytes (fitted 6 u)) = .ok (.string ("0x" ++ word)) ∧
        IsHexOf 64 word (fitted 6 u ++ List.replicate 26 0) ∧
        (u.length ≤ 32 →
          (Text.bytes? word = some (u.rightpad 32 0) ↔ (u.rdropWhile (· = 0)).length ≤ 6)) := by
  have hid : IsHexOf 12 (Text.hexBytes (fitted 6 name.utf8)) (fitted 6 name.utf8) :=
    Text.hexBytes_isHexOf (by simp [Bytes.length_fitted])
  have hword : IsHexOf 64 (Text.hexBytes (fitted 6 name.utf8 ++ List.replicate 26 0))
      (fitted 6 name.utf8 ++ List.replicate 26 0) :=
    Text.hexBytes_isHexOf (by simp [Bytes.length_fitted])
  have horacle := oracleId_eq (fitted 6 name.utf8)
  refine ⟨name.utf8, Utf8.decode_eq_ok.mpr ⟨h, rfl⟩, ⟨_, assetId_eq name, hid⟩, ?_, _, ?_, ?_, hword, ?_⟩
  · intro other v hv
    obtain ⟨-, rfl⟩ := Utf8.decode_eq_ok.mp hv
    exact assetId_inj
  · rw [assetId_eq, ← horacle]
    rfl
  · rw [← horacle]
    rfl
  · intro hlen
    rw [hword.read, Option.some_inj]
    exact Bytes.fitted_eq_iff (by omega) hlen

/-- The sixth byte is within the last character, so another character may stand there, and an oracle is not asked for
the whole name. -/
theorem cutWithin_encoded : Text.isScalar "YSDA€" = true ∧
    (∃ digits, assetId "YSDA€" = "0x" ++ digits ∧ IsHexOf 12 digits [0x59, 0x53, 0x44, 0x41, 0xE2, 0x82]) ∧
    assetId "YSDA€" = assetId "YSDA₂" ∧
    ∃ word, oracleIdOf (.string (assetId "YSDA€")) = .ok (.string ("0x" ++ word)) ∧
      Text.bytes? word ≠ some ((Text.utf8 "YSDA€").rightpad 32 0) := by
  have hscalar : Text.isScalar "YSDA€" = true := by decide
  obtain ⟨u, hu, hid, hshared, word, hword, -, -, hwhole⟩ := ids_encoded hscalar
  obtain ⟨-, rfl⟩ := Utf8.decode_eq_ok.mp hu
  have hother : Utf8.decode (Text.utf8 "YSDA₂") = .ok "YSDA₂" := Utf8.decode_eq_ok.mpr ⟨by decide, rfl⟩
  refine ⟨hscalar, hid, (hshared _ _ hother).mpr (by decide), word, hword, ?_⟩
  intro h
  exact absurd ((hwhole (by decide)).mp h) (by decide)

end LiquidationDrill.Mainnet
