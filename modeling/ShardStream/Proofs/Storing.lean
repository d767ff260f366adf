import ShardStream.Offset.Stored
import ShardStream.Proofs.Json.Formats

/-! # Stored offsets are read back

An offset with a position is read back from its text as it was stored, and so is a position alone.
-/
namespace ShardStream

open Json

variable {levels : Nat}

theorem ShardPosition.restores_format (p : ShardPosition) : format.Restores (levels + 1) p :=
  Record.Restores.format (by decide) (.imap
    (.and (Record.restores_required _ (Format.restores_text _))
      (.and (Record.restores_required _ (Format.restores_text _))
        (Record.restores_required _ (Format.restores_text _))))
    rfl)

namespace Vgtid

theorem restores_format (v : Vgtid) : format.Restores (levels + 2) v :=
  .imap (.list fun p _ => p.restores_format) rfl

theorem parse_text {v : Vgtid} (hv : v.isEmpty = false) : parse v.text = .ok v := by
  have hrestores : format.Restores 2 v := v.restores_format
  have hread := hrestores.decode_parse (by decide)
  rw [parse, text, hread]
  simp [hv]

end Vgtid

namespace StoredOffset

theorem restores_format (o : StoredOffset) : format.Restores (levels + 3) o :=
  Record.Restores.format (by decide) (.imap
    (.and (Record.restores_required _ o.vgtid.restores_format)
      (.and (Record.restores_required _ (Format.restores_int64 _))
        (.and (Record.restores_defaulted _ _
            (.option (fun s _ => Format.restores_text s) nofun))
          (Record.restores_defaulted _ _ (.keyMap fun e _ => Format.restores_uint64 e.2)))))
    rfl)

theorem parse_text {o : StoredOffset} (ho : o.vgtid.isEmpty = false) : parse o.text = .ok o := by
  have hrestores : format.Restores 3 o := o.restores_format
  have hread := hrestores.decode_parse (by decide)
  rw [parse, text, hread]
  simp [ho]

end StoredOffset

end ShardStream
