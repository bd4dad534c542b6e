import Formwork.Document.Scalar
/-!
Settings that apply where a form does not say otherwise.
-/
namespace Formwork

open Document

structure Settings where
  locale : String := "en"
  /-- The name of the policy for approvals that wait too long. -/
  escalationPolicy : String := "notify_only"
  /-- In megabytes. -/
  maxFileSize : Int := 10

def Settings.decoder : Decoder Settings := Fields.openRecord
  (Settings.mk <$> Fields.given "default_locale" "en" Decoder.text
    <*> Fields.given "default_escalation_policy" "notify_only" Decoder.text
    <*> Fields.given "default_max_file_size_mb" 10 Decoder.whole)
  "Settings"

def Settings.document (s : Settings) : Value :=
  .map [("default_locale", .text s.locale),
    ("default_escalation_policy", .text s.escalationPolicy),
    ("default_max_file_size_mb", .int s.maxFileSize)]

end Formwork
