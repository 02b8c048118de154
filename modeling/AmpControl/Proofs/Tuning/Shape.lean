import AmpControl.Proofs.Channel.Mask
import AmpControl.Tuning.Payload

/-!
# The shape of a payload

A payload that was read declares between one channel and the largest number of channels, holds one
group of tables for each of them, and has no control on any other channel.
-/

namespace AmpControl.Tuning

namespace Read

/-- A read of two steps succeeds only by way of its first step. -/
theorem bind_eq_ok {α β : Type} {first : Read α} {next : α → Read β} {reader after : Reader}
    {result : β} (read : (first >>= next) reader = .ok result after) :
    ∃ value middle, first reader = .ok value middle ∧ next value middle = .ok result after := by
  simp only [bind, EStateM.bind] at read
  cases outcome : first reader with
  | ok value middle =>
      rw [outcome] at read
      exact ⟨value, middle, rfl, read⟩
  | error error middle =>
      rw [outcome] at read
      cases read

theorem length_records {α : Type} {record : Read α} {amount : Nat} {reader after : Reader}
    {values : List α} (read : records record amount reader = .ok values after) :
    values.length = amount := by
  induction amount generalizing reader after values with
  | zero => cases read; rfl
  | succ amount ih =>
      obtain ⟨first, middle, _, rest⟩ := bind_eq_ok read
      obtain ⟨others, ended, followed, made⟩ := bind_eq_ok rest
      cases made
      rw [List.length_cons, ih followed]

end Read

/-- A check of two steps passes only by way of its first step. -/
theorem passed_bind {ε α β : Type} {first : Except ε α} {next : α → Except ε β} {result : β}
    (passed : (first >>= next) = .ok result) :
    ∃ value, first = .ok value ∧ next value = .ok result := by
  cases first with
  | error error => cases passed
  | ok value => exact ⟨value, rfl, passed⟩

/-- A check of two steps is refused by one of them. -/
theorem refused_bind {ε α β : Type} {first : Except ε α} {next : α → Except ε β} {error : ε}
    (refused : (first >>= next) = .error error) :
    first = .error error ∨ ∃ value, first = .ok value ∧ next value = .error error := by
  cases first with
  | error other =>
      cases refused
      exact .inl rfl
  | ok value => exact .inr ⟨value, rfl, refused⟩

@[simp]
theorem Payload.mem_allChannels {payload : Payload} {channel : UInt8} :
    channel ∈ payload.allChannels ↔ channel < payload.channelCount :=
  Channel.mem_upTo

/-- What a reader promises about the channels of a payload. -/
structure Payload.Shaped (payload : Payload) : Prop where
  declared : payload.channels.length = payload.header.channels.length
  some_channel : 0 < payload.header.channels.length
  few_channels : payload.header.channels.length ≤ maxChannels
  controls_declared :
    ∀ control ∈ payload.controls, control.channel.toNat < payload.header.channels.length

namespace Payload.Shaped

variable {payload : Payload}

theorem toNat_channelCount (shaped : payload.Shaped) :
    payload.channelCount.toNat = payload.channels.length := by
  have few := shaped.few_channels
  rw [maxChannels] at few
  rw [shaped.declared]
  exact UInt8.toNat_ofNatClamp_of_lt (by rw [show UInt8.size = 256 from rfl]; omega)

theorem channelCount_le (shaped : payload.Shaped) : payload.channelCount ≤ 4 := by
  apply UInt8.le_iff_toNat_le.mpr
  rw [shaped.toNat_channelCount, shaped.declared]
  exact shaped.few_channels

theorem lt_channelCount_iff (shaped : payload.Shaped) {channel : UInt8} :
    channel < payload.channelCount ↔ channel.toNat < payload.channels.length := by
  rw [UInt8.lt_iff_toNat_lt, shaped.toNat_channelCount]

theorem lt_eight (shaped : payload.Shaped) {channel : UInt8}
    (declared : channel < payload.channelCount) : channel < 8 :=
  UInt8.lt_of_lt_of_le declared (UInt8.le_trans shaped.channelCount_le (by decide))

/-- Every declared channel has tables. -/
theorem tables (shaped : payload.Shaped) {channel : UInt8}
    (declared : channel < payload.channelCount) :
    ∃ tables, payload.channel? channel = some tables := by
  have bound := shaped.lt_channelCount_iff.mp declared
  exact ⟨payload.channels[channel.toNat], List.getElem?_eq_getElem bound⟩

/-- Only declared channels have tables. -/
theorem declared_of_tables (shaped : payload.Shaped) {channel : UInt8} {tables : ChannelTables}
    (tabled : payload.channel? channel = some tables) : channel < payload.channelCount :=
  shaped.lt_channelCount_iff.mpr (List.getElem?_eq_some_iff.mp tabled).1

/-- Only declared channels have interrupt tables. -/
theorem declared_of_interrupts (shaped : payload.Shaped) {channel : UInt8}
    {table : InterruptTable} (tabled : payload.interrupts? channel = some table) :
    channel < payload.channelCount := by
  unfold interrupts? at tabled
  split at tabled
  · obtain ⟨tables, found, _⟩ := Option.bind_eq_some_iff.mp tabled
    exact shaped.declared_of_tables found
  · cases tabled

theorem control_declared (shaped : payload.Shaped) {control : Control}
    (member : control ∈ payload.controls) : control.channel < payload.channelCount := by
  rw [shaped.lt_channelCount_iff, shaped.declared]
  exact shaped.controls_declared control member

end Payload.Shaped

/-- The fields that a header was read from, up to its channels, and what was checked of them. -/
theorem Header.of_read {reader after : Reader} {header : Header}
    (read : Header.read reader = .ok header after) :
    ∃ begun named stamped counted listed count,
      Read.word reader = .ok header.version begun ∧ header.version ≤ supportedVersion ∧
      Name.read begun = .ok header.name named ∧
      Read.word named = .ok header.timestamp stamped ∧
      Read.word stamped = .ok count counted ∧ 0 < count.toNat ∧ count.toNat ≤ maxChannels ∧
      Read.records ChannelIdentity.read count.toNat counted = .ok header.channels listed := by
  obtain ⟨version, begun, first, read⟩ := Read.bind_eq_ok read
  by_cases later : supportedVersion < version
  · rw [if_pos later] at read
    obtain ⟨_, _, thrown, _⟩ := Read.bind_eq_ok read
    cases thrown
  rw [if_neg later] at read
  obtain ⟨name, named, second, read⟩ := Read.bind_eq_ok read
  obtain ⟨timestamp, stamped, third, read⟩ := Read.bind_eq_ok read
  obtain ⟨count, counted, fourth, read⟩ := Read.bind_eq_ok read
  by_cases bad : count = 0 ∨ maxChannels < count.toNat
  · rw [if_pos bad] at read
    obtain ⟨_, _, thrown, _⟩ := Read.bind_eq_ok read
    cases thrown
  rw [if_neg bad] at read
  obtain ⟨channels, listed, fifth, read⟩ := Read.bind_eq_ok read
  obtain ⟨senseWidth, _, _, read⟩ := Read.bind_eq_ok read
  obtain ⟨voltageSense, _, _, read⟩ := Read.bind_eq_ok read
  obtain ⟨features, _, _, read⟩ := Read.bind_eq_ok read
  obtain ⟨_, _, _, made⟩ := Read.bind_eq_ok read
  cases made
  have positive : 0 < count.toNat :=
    Nat.pos_of_ne_zero fun zero => bad (.inl (UInt32.toNat_inj.mp zero))
  exact ⟨begun, named, stamped, counted, listed, count, first, UInt32.not_lt.mp later, second,
    third, fourth, positive, Nat.le_of_not_lt fun more => bad (.inr more), fifth⟩

theorem Header.channels_bounds {reader after : Reader} {header : Header}
    (read : Header.read reader = .ok header after) :
    0 < header.channels.length ∧ header.channels.length ≤ maxChannels := by
  obtain ⟨_, _, _, _, _, count, _, _, _, _, _, positive, few, listed⟩ := Header.of_read read
  rw [Read.length_records listed]
  exact ⟨positive, few⟩

theorem Group.length_finishAll {channel : Nat} {groups : List Group} {tables : List ChannelTables}
    (finished : Group.finishAll channel groups = .ok tables) : tables.length = groups.length := by
  induction groups generalizing channel tables with
  | nil => cases finished; rfl
  | cons group others ih =>
      obtain ⟨head, _, rest⟩ := passed_bind finished
      obtain ⟨tail, followed, made⟩ := passed_bind rest
      cases made
      rw [List.length_cons, List.length_cons, ih followed]

namespace Assembly

theorem length_groups_fillGroup {assembly filled : Assembly} {part : Section}
    {into : Group → Except FormatError Group}
    (done : assembly.fillGroup part into = .ok filled) :
    filled.groups.length = assembly.groups.length := by
  unfold fillGroup at done
  cases last : assembly.groups.getLast? with
  | none => rw [last] at done; cases done
  | some group =>
      rw [last] at done
      cases isOver : assembly.groupsOver with
      | true => rw [isOver] at done; cases done
      | false =>
          rw [isOver] at done
          obtain ⟨entry, _, made⟩ := passed_bind done
          cases made
          have some_group : assembly.groups ≠ [] := by
            intro empty
            rw [empty] at last
            cases last
          rw [List.length_append, List.length_dropLast, List.length_singleton]
          exact Nat.sub_add_cancel (List.length_pos_iff.mpr some_group)

/-- A payload never has more groups than its header declares. -/
theorem length_groups_add {declared : Nat} {assembly grown : Assembly} {part : Section}
    (few : assembly.groups.length ≤ declared) (added : assembly.add declared part = .ok grown) :
    grown.groups.length ≤ declared := by
  unfold add at added
  cases kind : part.kind <;> rw [kind] at added
  case header => cases added
  case initialisation =>
      by_cases full : declared ≤ assembly.groups.length ∨ assembly.groupsOver = true
      · rw [if_pos full] at added
        cases added
      · rw [if_neg full] at added
        obtain ⟨script, _, made⟩ := passed_bind added
        cases made
        rw [List.length_append, List.length_singleton]
        exact Nat.lt_of_not_le fun most => full (.inl most)
  case controls | algorithm =>
      obtain ⟨table, _, made⟩ := passed_bind added
      cases made
      exact few
  all_goals
    rw [length_groups_fillGroup added]
    exact few

/-- A finished assembly is a payload of the promised shape. -/
theorem shaped_finish {assembly : Assembly} {bytes : Bytes} {header : Header} {payload : Payload}
    (some_channel : 0 < header.channels.length)
    (few_channels : header.channels.length ≤ maxChannels)
    (few : assembly.groups.length ≤ header.channels.length)
    (finished : assembly.finish bytes header = .ok payload) : payload.Shaped := by
  unfold finish at finished
  by_cases missing : assembly.groups.length < header.channels.length
  · simp only [if_pos missing] at finished
    cases finished
  simp only [if_neg missing] at finished
  obtain ⟨channels, grouped, rest⟩ := passed_bind finished
  cases stray : (assembly.controls.getD []).find? fun control =>
      decide (header.channels.length ≤ control.channel.toNat) with
  | some control => rw [stray] at rest; cases rest
  | none =>
      rw [stray] at rest
      cases rest
      refine ⟨?_, some_channel, few_channels, ?_⟩
      · exact (Group.length_finishAll grouped).trans
          (Nat.le_antisymm few (Nat.le_of_not_lt missing))
      · intro control member
        have declared := List.find?_eq_none.mp stray control member
        exact Nat.lt_of_not_le fun beyond => declared (decide_eq_true beyond)

end Assembly

namespace Parsed

theorem length_groups_addAll {declared count : Nat} {assembly grown : Assembly}
    {parts : List Section} (few : assembly.groups.length ≤ declared)
    (added : (addAll declared count assembly parts).2 = .ok grown) :
    grown.groups.length ≤ declared := by
  induction parts generalizing count assembly with
  | nil => cases added; exact few
  | cons part others ih =>
      unfold addAll at added
      cases step : assembly.add declared part with
      | error error => rw [step] at added; cases added
      | ok next =>
          rw [step] at added
          exact ih (Assembly.length_groups_add few step) added

theorem shaped_body {bytes : Bytes} {header : Header} {walk : Walk} {payload : Payload}
    (some_channel : 0 < header.channels.length)
    (few_channels : header.channels.length ≤ maxChannels)
    (read : (body bytes header walk).outcome = .ok payload) : payload.Shaped := by
  obtain ⟨assembly, added, rest⟩ := passed_bind read
  have few := length_groups_addAll (Nat.zero_le _) added
  cases stopped : walk.stopped with
  | some error => rw [stopped] at rest; cases rest
  | none =>
      rw [stopped] at rest
      exact Assembly.shaped_finish some_channel few_channels few rest

theorem shaped_ofPayload {bytes : Bytes} {payload : Payload}
    (read : (ofPayload bytes).outcome = .ok payload) : payload.Shaped := by
  unfold ofPayload at read
  split at read
  · cases read
  · cases read
  · rename_i first others stopped found
    by_cases first_header : first.kind = .header
    · rw [if_pos first_header] at read
      cases declared : Header.read first.reader with
      | error error after => rw [declared] at read; cases read
      | ok header after =>
          rw [declared] at read
          obtain ⟨some_channel, few_channels⟩ := Header.channels_bounds declared
          exact shaped_body some_channel few_channels read
    · rw [if_neg first_header] at read
      cases read

end Parsed

/-- Whatever the bytes of an image are, a payload that is read from it has the promised shape. -/
theorem ParsedImage.shaped_ofImage {image : Bytes} {revision : UInt32} {payload : Payload}
    (read : (ParsedImage.ofImage image revision).outcome = .ok payload) : payload.Shaped := by
  unfold ParsedImage.ofImage at read
  cases selected : Container.select image revision with
  | error error => rw [selected] at read; cases read
  | ok bytes =>
      rw [selected] at read
      cases outcome : (Parsed.ofPayload bytes).outcome with
      | error error => simp [outcome, Except.mapError] at read
      | ok parsed =>
          simp only [outcome, Except.mapError, Except.ok.injEq] at read
          exact read ▸ Parsed.shaped_ofPayload outcome

end AmpControl.Tuning
