import EcmaModule.Operation
import EcmaModule.Proofs.Json.Quote
import EcmaModule.Proofs.Text.Utf8
import Mathlib.Data.Set.Operations

/-! The envelope of a response.

A response is the UTF-8 of a string literal. The literal has no lone surrogate and starts
with a quote, so the strict reader takes its bytes back, and the literal is read as the
text it quotes (`decode_encode_result`). Nothing is lost on the way, whatever the text
(`encodeResult_lossless`). -/
namespace EcmaModule.Operation

open Text

theorem encodeResult_head (s : Text) : (encodeResult s).head? = some 0x22 :=
  Utf8.encode_head (u := 0x22) (by decide) _

/-- The text of a response comes back. -/
theorem decode_encode_result (s : Text) : decodeResult (encodeResult s) = .ok s := by
  have hbytes : Utf8.decode? (encodeResult s) = some (Json.quote s) := by
    refine Utf8.decode_encode (Json.paired_quote s) ?_
    rw [show (Utf8.encode (Json.quote s)).head? = _ from encodeResult_head s]
    decide
  rw [decodeResult, hbytes]
  simp only [Json.read_quote]

/-- **The envelope is lossless.** A response is well-formed UTF-8 whatever text it carries, and
the text comes back from it. So different texts have different responses, and a response
is the one of the text that comes back. -/
theorem encodeResult_lossless :
    (∀ s : Text, Utf8.WellFormed (encodeResult s) ∧ decodeResult (encodeResult s) = .ok s) ∧
      Function.Injective encodeResult ∧
      ∀ b ∈ Set.range encodeResult, (decodeResult b).map encodeResult = .ok b := by
  refine ⟨fun s => ⟨Utf8.encode_wellFormed _, decode_encode_result s⟩, fun s t h => ?_, ?_⟩
  · have hs := decode_encode_result s
    rw [h, decode_encode_result t] at hs
    exact (Except.ok.inj hs).symm
  · rintro b ⟨s, rfl⟩
    rw [decode_encode_result s]
    rfl

/-- A lone surrogate, a quote, a byte order mark and a line separator. -/
example : decodeResult (encodeResult [0xFEFF, 0x22, 0xD800, 0x2028, 0xD834, 0xDD1E]) =
    .ok [0xFEFF, 0x22, 0xD800, 0x2028, 0xD834, 0xDD1E] := by
  rfl

end EcmaModule.Operation
