import Gatehouse.Cache.Draft
import Gatehouse.Json.Decode

/-!
# Structured cache rules as JSON

The members of a draft, read strictly and written without what is empty.
-/

namespace Gatehouse.RuleDraft

/-- The JSON form of a draft; empty lists and a missing time to live are left out. -/
def toJson (draft : RuleDraft) : Json :=
  .object ([("kind", .text draft.kind),
      ("match", .object [("type", .text draft.matchType), ("value", .text draft.matchValue)])] ++
    (if draft.methods.isEmpty then [] else [("methods", .texts draft.methods)]) ++
    (draft.ttl.toList.map fun ttl => ("ttl", .ofInt ttl.toInt)) ++
    (if draft.vary.isEmpty then [] else [("vary", .texts draft.vary)]))

/-- The fields of a matcher that were read so far. -/
structure MatchFields where
  matchType : Option String
  value : Option String

/-- Reads the matcher of a draft: its key and its text. -/
def matchOfJson (draft : JsonDraft) : Except JsonFault (String × String) := do
  let fields ← draft.asRecord ["type", "value"] ⟨none, none⟩
    fun (fields : MatchFields) name value => do
      if name = "type" then return { fields with matchType := some (← value.asText) }
      else return { fields with value := some (← value.asText) }
  return (← JsonDraft.require fields.matchType, ← JsonDraft.require fields.value)

/-- The fields of a draft that were read so far. -/
structure Fields where
  kind : Option String := none
  matcher : Option (String × String) := none
  methods : List String := []
  ttl : Option Int64 := none
  vary : List String := []

/-- Takes one field in. -/
def Fields.set (fields : Fields) (name : String) (value : JsonDraft) : Except JsonFault Fields := do
  if name = "kind" then return { fields with kind := some (← value.asText) }
  else if name = "match" then return { fields with matcher := some (← matchOfJson value) }
  else if name = "methods" then
    return { fields with methods := ← value.asList JsonDraft.asText }
  else if name = "ttl" then return { fields with ttl := ← value.asOptional JsonDraft.asInt64 }
  else return { fields with vary := ← value.asList JsonDraft.asText }

def ofJson (draft : JsonDraft) : Except JsonFault RuleDraft := do
  let fields ← draft.asRecord ["kind", "match", "methods", "ttl", "vary"] ({} : Fields) Fields.set
  let kind ← JsonDraft.require fields.kind
  let (matchType, matchValue) ← JsonDraft.require fields.matcher
  return ⟨kind, matchType, matchValue, fields.methods, fields.ttl, fields.vary⟩

end Gatehouse.RuleDraft
