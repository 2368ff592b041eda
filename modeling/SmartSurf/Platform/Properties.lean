import Mathlib.Logic.Function.Basic
import SmartSurf.Platform.Java

/-!
# System properties

The property service is a map from keys to strings in which an unset property
reads as the empty string.  A write is rejected with an exception when the
value is longer than 91 characters.
-/

namespace SmartSurf

/-- The properties the telephony classes read or write. -/
inductive SystemProperty where
  | eccServiceCategoryList
  | eccList
  | eccList1
  | airplaneModeOn
  | eboot
  | mtkCtaSet
  deriving DecidableEq, Repr

/-- The name of the property in the property service. -/
def SystemProperty.key : SystemProperty → String
  | .eccServiceCategoryList => "ril.ecc.service.category.list"
  | .eccList => "ril.ecclist"
  | .eccList1 => "ril.ecclist1"
  | .airplaneModeOn => "persist.radio.airplane.mode.on"
  | .eboot => "gsm.ril.eboot"
  | .mtkCtaSet => "ro.mtk_cta_set"

/-- The contents of the property service. -/
abbrev SystemProperties := SystemProperty → JString

/-- Longest value `SystemProperties.set` accepts. -/
def propValueMax : ℕ := 91

/-- `SystemProperties.set(key, val)`. -/
def SystemProperties.set (props : SystemProperties)
    (property : SystemProperty) (val : JString) :
    Except Throwable SystemProperties :=
  if val.length ≤ propValueMax then
    .ok (Function.update props property val)
  else
    .error (.valueTooLarge property.key val)

end SmartSurf
