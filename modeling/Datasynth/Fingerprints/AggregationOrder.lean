import Mathlib.Algebra.BigOperators.Group.List.Lemmas
import Datasynth.Fingerprints.IndustryAggregator

/-!
When an aggregation depends neither on the order of the clients nor on that of any hash map.
-/

namespace Datasynth.Fingerprints.AggregationOrder

open Datasynth.Fingerprints.IndustryAggregator
open Datasynth.Lib.HashIteration
open Datasynth.Lib.HashedMaximum
open Datasynth.Lib.SortedEntries

section SourceMix

end SourceMix

section Votes

/-- How often a client's GL accounts are of each format. -/
def gl_tally (client : BehavioralPriors) : List (AccountFormat × ℕ) :=
  client.per_source_attribute.elim [] fun psa => format_tally psa "gl_account"

/-- A client's vote counts as often as GL accounts were observed. -/
def gl_obs (client : BehavioralPriors) : ℕ := client.per_source_attribute.elim 0 client_obs

/-- A format that can be found dominant for a client. -/
def MayVote (client : BehavioralPriors) (format : AccountFormat) : Prop :=
  Leads (gl_tally client) format

instance : DecidableRel MayVote :=
  fun client format => inferInstanceAs (Decidable (Leads (gl_tally client) format))

variable {client : BehavioralPriors} {format : AccountFormat}

theorem valid_leader (order : HashOrder) (client : BehavioralPriors) :
    Valid MayVote (client, leader order (gl_tally client)) := by
  rw [Valid]
  cases hleader : leader order (gl_tally client) with
  | none => exact leader_eq_none_iff_forall.mp hleader
  | some format => exact leads_of_leader hleader

/-- Every vote that a client may cast is cast in some order of iteration. -/
theorem exists_order_of_valid {ballot : BehavioralPriors × Option AccountFormat}
    (h : Valid MayVote ballot) : ∃ order, leader order (gl_tally ballot.1) = ballot.2 := by
  obtain ⟨client, _ | format⟩ := ballot
  · exact ⟨.insertion, leader_eq_none_iff_forall.mpr h⟩
  · exact exists_leader_of_leads h

/-- The vote of an input in a run. -/
def ballot (input : ClientInput) : BehavioralPriors × Option AccountFormat :=
  (input.priors, leader input.voting (gl_tally input.priors))

theorem dominant_gl_format_eq (across : HashOrder) (inputs : List ClientInput) :
    dominant_gl_format across inputs = leader across (tally gl_obs (inputs.map ballot)) := by
  rw [dominant_gl_format, detect_cross_client_dominant_gl_format, tally, votes,
    List.filterMap_filterMap, List.filterMap_map]
  congr 3
  funext input
  obtain ⟨⟨_, _, _, _, _, _ | psa, _⟩, voting, _, _⟩ := input
  · show none = (leader voting []).map _
    rw [leader_eq_none_iff.mpr rfl, Option.map_none]
  · rfl

theorem client_in_dominant_iff {input : ClientInput} :
    client_in_dominant (some format) input = true ↔
      input.priors.per_source_attribute.isNone = true ∨
        leader input.checking (gl_tally input.priors) = some format := by
  obtain ⟨⟨_, _, _, _, _, _ | psa, _⟩, _, checking, _⟩ := input
  · exact iff_of_true rfl (.inl rfl)
  · show decide (detect_dominant_format checking psa "gl_account" = some format) = true ↔
      false = true ∨ detect_dominant_format checking psa "gl_account" = some format
    rw [decide_eq_true_eq, Bool.false_eq_true, false_or]

theorem map_ballot_fst (inputs : List ClientInput) :
    (inputs.map ballot).map Prod.fst = inputs.map ClientInput.priors := by
  rw [List.map_map]
  rfl

theorem valid_ballots (inputs : List ClientInput) :
    ∀ vote ∈ inputs.map ballot, Valid MayVote vote := by
  intro vote hvote
  obtain ⟨input, -, rfl⟩ := List.mem_map.mp hvote
  exact valid_leader _ _

end Votes

section Retained

variable {across : HashOrder} {inputs : List ClientInput} {format : AccountFormat}

/-- Votes that a format wins are cast and counted in some run, with whatever else the tallies of
the clients may be found to say. -/
theorem exists_inputs {ballots : List (BehavioralPriors × Option AccountFormat)}
    (hvalid : ∀ vote ∈ ballots, Valid MayVote vote) (hleads : Leads (tally gl_obs ballots) format)
    {checks pools : BehavioralPriors → Option AccountFormat}
    (hchecks : ∀ client, Valid MayVote (client, checks client))
    (hpools : ∀ client, Valid MayVote (client, pools client)) :
    ∃ across inputs, inputs.map ClientInput.priors = ballots.map Prod.fst ∧
      dominant_gl_format across inputs = some format ∧ ∀ input ∈ inputs,
        leader input.checking (gl_tally input.priors) = checks input.priors ∧
        leader (input.pooling "gl_account") (gl_tally input.priors) = pools input.priors := by
  have horder : ∀ vote : BehavioralPriors × Option AccountFormat, ∃ order,
      Valid MayVote vote → leader order (gl_tally vote.1) = vote.2 := by
    intro vote
    by_cases hvote : Valid MayVote vote
    · obtain ⟨order, horder⟩ := exists_order_of_valid hvote
      exact ⟨order, fun _ => horder⟩
    · exact ⟨.insertion, fun h => absurd h hvote⟩
  choose order horder using horder
  obtain ⟨across, hacross⟩ := exists_leader_of_leads hleads
  let input (vote : BehavioralPriors × Option AccountFormat) : ClientInput :=
    ⟨vote.1, order vote, order (vote.1, checks vote.1), fun _ => order (vote.1, pools vote.1)⟩
  refine ⟨across, ballots.map input, by rw [List.map_map]; rfl, ?_, ?_⟩
  · have hballots : (ballots.map input).map ballot = ballots := by
      rw [List.map_map]
      apply (List.map_congr_left _).trans (List.map_id ballots)
      intro vote hvote
      exact Prod.ext rfl (horder vote (hvalid vote hvote))
    rw [dominant_gl_format_eq, hballots, hacross]
  · intro i hi
    obtain ⟨vote, -, rfl⟩ := List.mem_map.mp hi
    exact ⟨horder (vote.1, checks vote.1) (hchecks vote.1),
      horder (vote.1, pools vote.1) (hpools vote.1)⟩

end Retained

section Independence

/-- A client that takes part if the format is dominant: one without GL accounts by source, or one
for which the format can be found dominant. -/
def Belongs (format : AccountFormat) (client : BehavioralPriors) : Bool :=
  client.per_source_attribute.isNone || MayVote client format

variable {clients : List BehavioralPriors}

end Independence

end Datasynth.Fingerprints.AggregationOrder
