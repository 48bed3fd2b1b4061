import RouterMetrics.Proofs.Collector.Routine

/-!
The requests of the collectors.

Main statement: whatever a device answers, they are fixed commands with arguments behind them, and
a device without IPv6 is asked for nothing of it.
-/

namespace RouterMetrics.Collector

/-- The commands of the collectors: they print and count, and set nothing. -/
def commands : List String :=
  ["/interface/print",
    "/interface/ethernet/print", "/interface/ethernet/monitor",
    "/interface/ethernet/poe/print", "/interface/ethernet/poe/monitor",
    "/interface/wireless/print", "/interface/wireless/monitor",
    "/interface/wireless/registration-table/print",
    "/ip/dhcp-server/print", "/ip/dhcp-server/lease/print",
    "/ip/firewall/connection/tracking/print",
    "/ip/pool/print", "/ipv6/pool/used/print",
    "/ip/route/print", "/ipv6/route/print",
    "/queue/monitor", "/queue/simple/print",
    "/system/health/print", "/system/package/getall", "/system/resource/print",
    "/tool/netwatch/print"]

/-- The command reads: it ends in one of the words for that. -/
def Reads (command : String) : Prop :=
  ∃ ending ∈ ["/print", "/getall", "/monitor"], ending.toList <:+ command.toList

/-- All commands of the collectors read. -/
theorem commands_read : ∀ command ∈ commands, Reads command := by
  -- Each of the commands is looked at.
  unfold Reads
  decide

/-- A word behind a command: a setting of the request or a filter. -/
def IsArgument (word : String) : Prop :=
  word.toList.head? = some '=' ∨ word.toList.head? = some '?'

instance (word : String) : Decidable (IsArgument word) := inferInstanceAs (Decidable (_ ∨ _))

/-- The command is about IPv6. -/
def AboutIpv6 (command : String) : Prop := "/ipv6".toList <+: command.toList

instance (command : String) : Decidable (AboutIpv6 command) :=
  inferInstanceAs (Decidable (_ <+: _))

/-- A word that starts with an argument is one, whatever text stands behind it. -/
theorem IsArgument.append {start : String} (argument : IsArgument start) (text : String) :
    IsArgument (start ++ text) := by
  -- The first character stays the first.
  unfold IsArgument at argument ⊢
  rw [String.toList_append, List.head?_append]
  rcases argument with mark | mark <;> simp [mark]

/-- One of some commands with arguments behind it, and not about IPv6 where there is none. -/
structure IsRequest (commands : List String) (ipv6Disabled : Bool) (command : String)
    (arguments : List String) : Prop where
  listed : command ∈ commands
  arguments : ∀ argument ∈ arguments, IsArgument argument
  apart : ipv6Disabled = true → ¬ AboutIpv6 command

namespace IsRequest

variable {names : List String} {ipv6Disabled : Bool} {command : String} {arguments : List String}

/-- A request with one of some commands is one with one of more. -/
theorem mono {more : List String} (request : IsRequest names ipv6Disabled command arguments)
    (included : names ⊆ more) : IsRequest more ipv6Disabled command arguments :=
  { request with listed := included request.listed }

/-- No word of a request is empty, so none of them ends the sentence before its time. -/
theorem nonempty (request : IsRequest names ipv6Disabled command arguments) (named : "" ∉ names) :
    ∀ word ∈ command :: arguments, word ≠ "" := by
  rintro word member rfl
  rcases List.mem_cons.mp member with rfl | behind
  · exact named request.listed
  · -- An argument starts with its mark.
    rcases request.arguments "" behind with mark | mark <;> cases mark

end IsRequest

/-- The words are a request with a command of the collectors. -/
def Asks (ipv6Disabled : Bool) (words : List String) : Prop :=
  ∃ command arguments, words = command :: arguments ∧
    IsRequest commands ipv6Disabled command arguments

section Asked

variable {words : List String} (ipv6Disabled : Bool)

/-- A request that has no text of a device in it, and is not about IPv6. -/
theorem asks_fixed {command : String} {arguments : List String}
    (fixed : command ∈ commands ∧ (∀ argument ∈ arguments, IsArgument argument) ∧
      ¬ AboutIpv6 command) : Asks ipv6Disabled (command :: arguments) :=
  ⟨command, arguments, rfl, fixed.1, fixed.2.1, fun _ => fixed.2.2⟩

/-- A request with a text of a device behind a mark: the text cannot make it another request. -/
theorem asks_named {command mark : String} {others : List String}
    (fixed : command ∈ commands ∧ (∀ argument ∈ mark :: others, IsArgument argument) ∧
      ¬ AboutIpv6 command) (text : String) :
    Asks ipv6Disabled (command :: (mark ++ text) :: others) := by
  -- The mark of an argument stands before the text.
  obtain ⟨listed, arguments, apart⟩ := fixed
  obtain ⟨marked, rest⟩ := List.forall_mem_cons.mp arguments
  exact ⟨_, _, rfl, listed, List.forall_mem_cons.mpr ⟨marked.append text, rest⟩, fun _ => apart⟩

/-- A first request and further ones, each of them for something that the first reply has named. -/
theorem asks_either {ι : Type} {first : List String} {next : ι → List String}
    (asked : words = first ∨ ∃ named, words = next named) (fixed : Asks ipv6Disabled first)
    (each : ∀ named, Asks ipv6Disabled (next named)) : Asks ipv6Disabled words := by
  -- Either request is one that may be made.
  rcases asked with rfl | ⟨named, rfl⟩
  · exact fixed
  · exact each named

/-- Pools of IPv6 are asked for only where there is IPv6. -/
theorem Pool.asks {target : Target} (asked : Pool.Asks target words) :
    Collector.Asks target.ipv6Disabled words := by
  rcases asked with rfl | ⟨rfl, enabled⟩
  · exact asks_fixed _ (by decide)
  · -- The request about IPv6 is made only where it is not disabled.
    refine ⟨_, _, rfl, by decide, by decide, fun disabled => ?_⟩
    rw [enabled] at disabled
    cases disabled

/-- Routes of IPv6 are counted only where there is IPv6. -/
theorem Routes.asks {target : Target} (asked : Routes.Asks target words) :
    Collector.Asks target.ipv6Disabled words := by
  obtain ⟨topic, filters, rfl, version, filtered⟩ := asked
  -- The filter, if there is one, is by a protocol of the list.
  have arguments : ∀ argument ∈ ["?disabled=false"] ++ filters ++ ["=count-only="],
      IsArgument argument := by
    rcases filtered with rfl | ⟨protocol, -, rfl⟩ <;> simp [IsArgument]
  rcases version with rfl | ⟨rfl, enabled⟩
  · exact ⟨_, _, rfl, by decide, arguments, fun _ => by decide⟩
  · refine ⟨_, _, rfl, by decide, arguments, fun disabled => ?_⟩
    rw [enabled] at disabled
    cases disabled

end Asked

/-- Everything that a routine may ask is a request with a command of the collectors. -/
theorem asks_of_routine {routine : Routine} (listed : routine ∈ routines) {target : Target}
    {words : List String} (asked : (routine.conduct target).asks words) :
    Asks target.ipv6Disabled words := by
  -- A routine with one request only asks for this one.
  have only : ∀ {request : List String}, Asks target.ipv6Disabled request → words = request →
      Asks target.ipv6Disabled words := by
    rintro request fixed rfl
    exact fixed
  simp only [routines, List.mem_cons, List.not_mem_nil, or_false] at listed
  rcases listed with rfl | rfl | rfl | rfl | rfl | rfl | rfl | rfl | rfl | rfl | rfl | rfl | rfl |
    rfl | rfl | rfl
  · exact only (asks_fixed _ (by decide +kernel)) asked
  · exact only (asks_fixed _ (by decide +kernel)) asked
  · exact only (asks_fixed _ (by decide)) asked
  · exact only (asks_fixed _ (by decide)) asked
  · exact Pool.asks asked
  · exact only (asks_fixed _ (by decide)) asked
  · exact only (asks_fixed _ (by decide)) asked
  · exact only (asks_fixed _ (by decide)) asked
  · exact only (asks_fixed _ (by decide)) asked
  · exact asks_either _ asked (asks_fixed _ (by decide)) fun _ => asks_named _ (by decide +kernel) _
  · exact Routes.asks asked
  · -- The requests for queues are both fixed ones.
    rcases asked with rfl | rfl <;> exact asks_fixed _ (by decide)
  · exact asks_either _ asked (asks_fixed _ (by decide)) fun _ => asks_named _ (by decide +kernel) _
  · exact asks_either _ asked (asks_fixed _ (by decide)) fun _ => asks_named _ (by decide +kernel) _
  · exact asks_either _ asked (asks_fixed _ (by decide)) fun _ => asks_named _ (by decide +kernel) _
  · exact asks_either _ asked (asks_fixed _ (by decide)) fun _ => asks_named _ (by decide +kernel) _

end RouterMetrics.Collector
