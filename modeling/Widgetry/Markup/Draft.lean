import Widgetry.Markup.Activity
import Widgetry.Markup.Builder

/-!
Live activities that are read with one builder. It takes the members of a description in the order of
the source, fills in a draft member by member, and builds the markup of a region when it comes to it.
-/

namespace Widgetry.Markup

open Source (Expr)

/-- What the members so far have told about an activity. -/
structure Draft where
  activityType : Option String := none
  attributes : ActivityAttributes := {}
  regions : ActivityRegions := {}
  staleDate : Option String := none
  relevanceScore : Option Float := none

/-- The activity of a draft that names a type. -/
def Draft.complete? (draft : Draft) : Option LiveActivity := do
  let activityType ← draft.activityType
  guard !activityType.isEmpty
  return {
    activityType
    attributes := draft.attributes
    regions := draft.regions
    staleDate := draft.staleDate
    relevanceScore := draft.relevanceScore }

namespace Builder

variable {α : Type}

/-- Work whose failure is an outcome like any other. -/
def attempt (work : Builder α) : Builder (Option α) := fun scope =>
  let (result, after) := work.run scope
  (some result, after)

/-- A group of attributes. What is no object leaves them as they are. -/
def takeGroup (attributes : ActivityAttributes) (group : String × Expr) :
    Builder ActivityAttributes := do
  if group.1 = "static" then
    let types ← attempt (ask (attributeTypes? · group.2))
    return { attributes with fixed := types.getD attributes.fixed }
  else if group.1 = "dynamic" then
    let types ← attempt (ask (attributeTypes? · group.2))
    return { attributes with changing := types.getD attributes.changing }
  else return attributes

/-- A part of an island. -/
def takePart (island : DynamicIsland) (part : String × Expr) : Builder DynamicIsland := do
  if part.1 = "compact" then
    return { island with compact := ← attempt (markup part.2) }
  else if part.1 = "minimal" then
    return { island with minimal := ← attempt (markup part.2) }
  else if part.1 = "expanded" then
    return { island with expanded := ← attempt (markup part.2) }
  else return island

/-- A region; each island starts anew. -/
def takeRegion (regions : ActivityRegions) (region : String × Expr) : Builder ActivityRegions := do
  if region.1 = "lockScreen" then
    return { regions with lockScreen := ← attempt (markup region.2) }
  else if region.1 = "dynamicIsland" then
    let island ← ((members? region.2).getD []).foldlM takePart {}
    return { regions with dynamicIsland := some island }
  else return regions

/-- A member of a description; a name that means nothing is passed over. -/
def takeMember (draft : Draft) (member : String × Expr) : Builder Draft := do
  if member.1 = "activityType" then
    let value ← attempt (ask member.2.fold?)
    return { draft with activityType := value.bind Literal.string? }
  else if member.1 = "attributes" then
    let attributes ← ((members? member.2).getD []).foldlM takeGroup draft.attributes
    return { draft with attributes }
  else if member.1 = "regions" then
    let regions ← ((members? member.2).getD []).foldlM takeRegion draft.regions
    return { draft with regions }
  else if member.1 = "staleDate" then
    let value ← attempt (ask member.2.fold?)
    return { draft with staleDate := value.bind Literal.text? }
  else if member.1 = "relevanceScore" then
    let value ← attempt (ask member.2.fold?)
    return { draft with relevanceScore := value.bind Literal.number? }
  else return draft

/-- The activity that an object describes. -/
def activity (value : Expr) : Builder LiveActivity := do
  let members ← lift (members? value)
  let draft ← members.foldlM takeMember {}
  lift draft.complete?

end Builder

end Widgetry.Markup
