import CloudAudit.Proofs.Requests.Likeness
/-!
# Requests that share nothing

Two sequences of calls that name different requests and different groups can be mixed in any way:
each call is answered as if the other sequence did not exist, and no request ever waits for one of
the other sequence.
-/
set_option autoImplicit false

namespace CloudAudit.RequestDesk

structure Apart (calls : List (Bool × RequestCall)) : Prop where
  direct : ∀ entry ∈ calls, entry.2.isDirect = true
  ids : ∀ place ∈ (marked true calls).flatMap RequestCall.ids,
    place ∉ (marked false calls).flatMap RequestCall.ids
  groups : ∀ place ∈ (marked true calls).flatMap RequestCall.groups,
    place ∉ (marked false calls).flatMap RequestCall.groups

theorem not_mem_flatMap_marked {places : RequestCall → List (OperationKind × String)}
    {calls : List (Bool × RequestCall)}
    (disjoint : ∀ place ∈ (marked true calls).flatMap places,
      place ∉ (marked false calls).flatMap places)
    {side : Bool} {call : RequestCall} (member : (!side, call) ∈ calls) :
    ∀ place ∈ places call, place ∉ (marked side calls).flatMap places := by
  intro place named own
  have foreign : place ∈ (marked (!side) calls).flatMap places :=
    List.mem_flatMap.2 ⟨call, mem_marked.2 member, named⟩
  cases side with
  | true => exact disjoint place own foreign
  | false => exact disjoint place foreign own

/-- However the calls of two sides are mixed, each call of a side gets the answer that it gets when
this side is alone, and whoever stands in the way of a request of the side belongs to it. -/
theorem disjoint_calls_do_not_interfere (calls : List (Bool × RequestCall))
    (apart : Apart calls) (side : Bool) :
    marked side (replies {} calls) = (run {} (marked side calls)).1 ∧
      ∀ kind id, (kind, id) ∈ (marked side calls).flatMap RequestCall.ids →
        ∀ blocker ∈ ((after (calls.map (·.2))).requests.table kind).dependenciesOf id,
          (kind, blocker) ∈ (marked side calls).flatMap RequestCall.ids := by
  have ran := @run_marked (Agrees (· ∈ (marked side calls).flatMap RequestCall.ids)
    (· ∈ (marked side calls).flatMap RequestCall.groups)) side calls ?_ ?_ {} {} (.start _ _)
  · exact ⟨ran.1, fun kind id own blocker edge =>
      (ran.2.alike kind).dependenciesWithin id blocker own edge⟩
  · intro call member one other agrees
    have named : ∀ {places : RequestCall → List (OperationKind × String)},
        ∀ place ∈ places call, place ∈ (marked side calls).flatMap places :=
      fun place named => List.mem_flatMap.2 ⟨call, mem_marked.2 member, named⟩
    exact agrees.together (apart.direct _ member) named named
  · intro call member one other agrees
    exact agrees.elsewhere (apart.direct _ member) (not_mem_flatMap_marked apart.ids member)
      (not_mem_flatMap_marked apart.groups member)

def mixed : List (Bool × RequestCall) :=
  [(true, .add .collect "a" ["g1", "g2"]),
   (false, .add .collect "x" ["h1"]),
   (true, .add .collect "b" ["g2", "g2"]),
   (false, .add .scan "a" ["g1"]),
   (false, .add .collect "y" ["h1"]),
   (false, .finish .collect "x" ["h1"]),
   (true, .status .collect "b"),
   (false, .status .collect "y"),
   (true, .holder .collect "g2")]

theorem mixed_apart :
    Apart mixed ∧ ∀ side, marked side (replies {} mixed) = (run {} (marked side mixed)).1 := by
  have apart : Apart mixed := ⟨by decide, by decide, by decide⟩
  exact ⟨apart, fun side => (disjoint_calls_do_not_interfere mixed apart side).1⟩

end CloudAudit.RequestDesk
