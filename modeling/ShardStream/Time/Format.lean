import ShardStream.Time.Rfc3339
import ShardStream.Json.Format

/-! # Instants in documents -/
namespace ShardStream.Instant

/-- An instant is the text of its RFC 3339 form. -/
def format : Json.Format Instant := Json.Format.text.imap? Time.parse Time.render

end ShardStream.Instant
