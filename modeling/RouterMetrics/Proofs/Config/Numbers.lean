import RouterMetrics.Proofs.Config.Disabled

/-!
The ports and timeouts of devices in documents.

Main statements: the devices that are loaded have the whole numbers that their settings stand for,
whatever these are, and a setting that stands for none keeps the document from being loaded.
-/

namespace RouterMetrics.Config

open RouterMetrics.Yaml (Document Source Value)

/-- The whole number that a value stands for. -/
inductive StandsFor : Value → Int → Prop
  | truth (value : Bool) : StandsFor (.bool value) (if value then 1 else 0)
  | whole (n : Int) : StandsFor (.scalar (.int n)) n
  /-- The fraction of a double is dropped. -/
  | cutOff {value : Float} {origin : Nat} {n : Int} (cut : Decimal.truncated? value = some n) :
      StandsFor (.scalar (.float value origin)) n
  | written {text : String} {n : Int} (read : Decimal.readInteger text = .ok n) :
      StandsFor (.text text) n
  /-- Bytes are read like the text of their characters. -/
  | writtenInBytes {bytes : List UInt8} {n : Int} (plain : ∀ byte ∈ bytes, byte < 128)
      (read : Decimal.readInteger
        (String.ofList (bytes.map fun byte => Char.ofNat byte.toNat)) = .ok n) :
      StandsFor (.scalar (.bytes bytes)) n

/-- The value of a port is one that stands for no port. -/
def IsNoPort (value : Value) : Prop := value = .null ∨ value = .text ""

/-- A value is given for the port or for the timeout of a device. -/
def Device.Fields.GivesNumber (fields : Device.Fields) (value : Value) : Prop :=
  fields "port" = some value ∧ ¬ IsNoPort value ∨ fields.given? "timeout" = some value

/-- The numbers of a device are those that its fields stand for. -/
structure TakenFrom (fields : Device.Fields) (device : Device) : Prop where
  absent : device.port = none ↔ ∀ value, fields "port" = some value → IsNoPort value
  port : ∀ n, device.port = some n ↔
    ∃ value, fields "port" = some value ∧ ¬ IsNoPort value ∧ StandsFor value n
  timeout : ∀ value, fields.given? "timeout" = some value → StandsFor value device.timeout
  usual : fields.given? "timeout" = none → device.timeout = 5

/-- The same is said about two devices but for their numbers, which are whole ones of any size. -/
structure Device.Fields.OtherNumbers (fields others : Device.Fields) : Prop where
  agree : ∀ name ∈ Device.fieldNames, name ≠ "port" → name ≠ "timeout" → fields name = others name
  whole : ∀ value, fields.GivesNumber value → ∃ n, StandsFor value n
  whole' : ∀ value, others.GivesNumber value → ∃ n, StandsFor value n

/-- Other numbers of others are the first ones. -/
theorem Device.Fields.OtherNumbers.symm {fields others : Device.Fields}
    (same : fields.OtherNumbers others) : others.OtherNumbers fields where
  -- Both sides have whole numbers.
  agree name member notPort notTimeout := (same.agree name member notPort notTimeout).symm
  whole := same.whole'
  whole' := same.whole

/-- A value is a number that is not infinite, a text or bytes. -/
def IsNumeral : Value → Prop
  | .scalar (.bool _) | .scalar (.int _) | .scalar (.text _) | .scalar (.bytes _) => True
  | .scalar (.float value _) => Decimal.extentOfBits (Decimal.bitsOf value) ≠ .infinite
  | _ => False

/-- The devices of the document in a source are all maps, with these fields. -/
def DevicesIn (source : Source) (items : List Device.Fields) : Prop :=
  ∃ outline, outlineOf? source = some outline ∧ outline.devices = .ok (items.map some)

/-! Numbers. -/

/-- A value is read as the whole number that it stands for. -/
theorem integerOf_eq_ok_iff {value : Value} {n : Int} : integerOf value = .ok n ↔ StandsFor value n := by
  constructor
  · intro read
    -- Each way of reading is one way to stand for a number.
    unfold integerOf at read
    split at read
    · cases read
      exact .truth _
    · cases read
      exact .whole _
    · unfold integerOfFloat at read
      split at read
      · rename_i cut
        cases read
        exact .cutOff cut
      · split at read <;> cases read
    · exact .written (ok_of_mapError read)
    · -- Bytes are read as the text that they are in ASCII.
      unfold integerOfBytes at read
      split at read
      · rename_i plain
        split at read
        · rename_i own
          cases read
          exact .writtenInBytes (by simpa using plain) own
        · cases read
        · cases read
      · cases read
    · cases read
  · intro stands
    cases stands with
    | truth value => rfl
    | whole => rfl
    | cutOff cut => simp [integerOf, integerOfFloat, cut]
    | written read => simp [integerOf, Value.text, read, Except.mapError]
    | @writtenInBytes bytes _ plain read =>
      have ascii : bytes.all (fun byte => byte < 128) = true := by simpa using plain
      simp only [integerOf, integerOfBytes, ascii, if_true, read]

/-- A numeral that stands for no number is refused in a way that configurations are known for. -/
theorem isForeseen_of_isNumeral {value : Value} {shape : ShapeFault} (numeral : IsNumeral value)
    (refused : integerOf value = .error shape) : shape.isForeseen = true := by
  unfold integerOf at refused
  split at refused
  · cases refused
  · cases refused
  · rename_i double _
    unfold integerOfFloat at refused
    cases extent : Decimal.extentOfBits (Decimal.bitsOf double) with
    | finite magnitude =>
      -- What is finite has a whole part.
      have whole : ∃ n, Decimal.truncated? double = some n := by
        unfold Decimal.truncated?
        rw [extent]
        exact ⟨_, rfl⟩
      obtain ⟨n, whole⟩ := whole
      rw [whole] at refused
      cases refused
    | infinite => exact absurd extent numeral
    | undefined =>
      rw [extent] at refused
      split at refused <;> cases refused
      rfl
  · rename_i text
    cases read : Decimal.readInteger text with
    | ok n => simp [read, Except.mapError] at refused
    | error fault =>
      simp only [read, Except.mapError, Except.error.injEq] at refused
      subst refused
      rfl
  · unfold integerOfBytes at refused
    split at refused
    · split at refused <;> cases refused <;> rfl
    · cases refused
      rfl
  · rename_i other
    cases value with
    | scalar scalar => cases scalar <;> simp_all [IsNumeral]
    | _ => cases numeral

/-! Devices. -/

section Devices

variable {fields : Device.Fields} {device : Device}

/-- A value that is given for a number is the one of a field. -/
theorem Device.Fields.GivesNumber.said {value : Value} (given : fields.GivesNumber value) :
    fields "port" = some value ∨ fields "timeout" = some value := by
  -- A timeout is only given by something else than nothing, zero or the empty text.
  refine given.imp And.left fun given => ?_
  obtain ⟨own, said, truthy⟩ := Option.bind_eq_some_iff.mp given
  unfold Value.ifTruthy? at truthy
  split at truthy <;> cases truthy
  exact said

/-- The port that is read is none exactly if none is given, and otherwise the number of its value. -/
theorem port_eq_ok {port : Option Int} (read : fields.port = .ok port) :
    (port = none ↔ ∀ value, fields "port" = some value → IsNoPort value) ∧
      ∀ n, port = some n ↔
        ∃ value, fields "port" = some value ∧ ¬ IsNoPort value ∧ StandsFor value n := by
  unfold Device.Fields.port at read
  split at read
  · rename_i missing
    cases read
    simp [missing]
  · rename_i null
    cases read
    simp [null, IsNoPort, Value.null]
  · rename_i empty
    cases read
    simp [empty, IsNoPort, Value.text]
  · rename_i value notNull notEmpty given
    have other : ¬ IsNoPort value := by
      rintro (rfl | rfl)
      · exact notNull rfl
      · exact notEmpty rfl
    cases whole : integerOf value with
    | error shape =>
      rw [whole] at read
      cases read
    | ok n =>
      rw [whole] at read
      cases read
      refine ⟨by simp [given, other], fun m => ?_⟩
      -- A value stands for one number only.
      simp only [given, Option.some.injEq, exists_eq_left', other, not_false_iff, true_and,
        ← integerOf_eq_ok_iff, whole, Except.ok.injEq]

/-- A device that fields describe has the numbers that they stand for. -/
theorem takenFrom_of_ofFields (described : Device.ofFields fields = .ok device) :
    TakenFrom fields device := by
  unfold Device.ofFields at described
  -- The name, the address, the user and the password are read before the port.
  iterate 4 obtain ⟨_, -, described⟩ := ok_of_bind described
  obtain ⟨port, ported, described⟩ := ok_of_bind described
  obtain ⟨_, -, described⟩ := ok_of_bind described
  obtain ⟨timeout, timed, described⟩ := ok_of_bind described
  cases described
  obtain ⟨absent, number⟩ := port_eq_ok ported
  unfold Device.Fields.timeout at timed
  refine ⟨absent, number, fun value given => ?_, fun none => ?_⟩
  · rw [given] at timed
    exact integerOf_eq_ok_iff.mp timed
  · rw [none] at timed
    exact (Except.ok.inj timed).symm

/-- Only a number with too many digits has no text. -/
theorem text_eq_error {name : String} {shape : ShapeFault} (failed : fields.text name = .error shape) :
    shape = .longNumber := by
  -- The other values all have a text.
  unfold Device.Fields.text at failed
  split at failed
  · unfold textOf at failed
    split at failed <;> cases failed
    rfl
  · cases failed

/-- A port that cannot be read is given by a value that is no number. -/
theorem port_eq_error {shape : ShapeFault} (failed : fields.port = .error shape) :
    ∃ value, fields.GivesNumber value ∧ integerOf value = .error shape := by
  unfold Device.Fields.port at failed
  split at failed
  · cases failed
  · cases failed
  · cases failed
  · -- Nothing, null and the empty text are no port, which is no fault.
    rename_i value notNull notEmpty given
    refine ⟨value, .inl ⟨given, ?_⟩, ?_⟩
    · rintro (rfl | rfl)
      · exact notNull rfl
      · exact notEmpty rfl
    · cases whole : integerOf value with
      | error fault =>
        rw [whole] at failed
        cases failed
        rfl
      | ok n =>
        rw [whole] at failed
        cases failed

/-- Fields that describe no device have a number with too many digits, or a value that is none. -/
theorem ofFields_eq_error {shape : ShapeFault} (failed : Device.ofFields fields = .error shape) :
    shape = .longNumber ∨ ∃ value, fields.GivesNumber value ∧ integerOf value = .error shape := by
  unfold Device.ofFields at failed
  -- Four texts are read, then the port, another text, and the timeout.
  iterate 4
    rcases bind_eq_error_iff.mp failed with failed | ⟨_, -, failed⟩
    · exact .inl (text_eq_error failed)
  rcases bind_eq_error_iff.mp failed with failed | ⟨_, -, failed⟩
  · exact .inr (port_eq_error failed)
  rcases bind_eq_error_iff.mp failed with failed | ⟨_, -, failed⟩
  · exact .inl (text_eq_error failed)
  rcases bind_eq_error_iff.mp failed with failed | ⟨_, -, failed⟩
  · unfold Device.Fields.timeout at failed
    split at failed
    · rename_i value given
      exact .inr ⟨value, .inr given, failed⟩
    · cases failed
  · cases failed

/-- What is given for the numbers of a device that can be read stands for some. -/
theorem standsFor_of_isReadable (readable : fields.IsReadable) {value : Value}
    (given : fields.GivesNumber value) : ∃ n, StandsFor value n := by
  -- What is no port gives no number; everything else has been read as one.
  simp only [← integerOf_eq_ok_iff]
  rcases given with ⟨given, other⟩ | given
  · rcases readable.port value given with rfl | rfl | whole
    · exact absurd (.inl rfl) other
    · exact absurd (.inr rfl) other
    · exact whole
  · exact readable.timeout value given

/-- Where a value is given for no number but a whole one, port and timeout can be read. -/
theorem exists_numbers (whole : ∀ value, fields.GivesNumber value → ∃ n, StandsFor value n) :
    (∃ port, fields.port = .ok port) ∧ ∃ timeout, fields.timeout = .ok timeout := by
  simp only [← integerOf_eq_ok_iff] at whole
  rw [Device.exists_port_iff, Device.exists_timeout_iff]
  refine ⟨fun value given => ?_, fun value given => whole value (.inr given)⟩
  -- What is no port can be read in any case.
  by_cases noPort : IsNoPort value
  · exact noPort.imp_right .inl
  · exact .inr (.inr (whole value (.inl ⟨given, noPort⟩)))

/-- A device without its numbers. -/
def unnumbered (device : Device) : Device := { device with port := none, timeout := 0 }

/-- With other numbers the device is another one in these only. -/
theorem ofFields_otherNumbers {others : Device.Fields} (same : fields.OtherNumbers others)
    (described : Device.ofFields fields = .ok device) :
    ∃ other, Device.ofFields others = .ok other ∧ unnumbered other = unnumbered device := by
  obtain ⟨⟨port, ported⟩, timeout, timed⟩ := exists_numbers same.whole'
  -- The texts do not come from the fields of the numbers.
  have text : ∀ name ∈ Device.textFields, others.text name = fields.text name := by
    intro name member
    have agree : fields name = others name := by
      refine same.agree name (List.mem_append_left _ member) ?_ ?_ <;>
        · rintro rfl
          exact absurd member (by decide)
    simp only [Device.Fields.text, Device.Fields.given?, agree]
  -- Neither do the flags.
  have flag : ∀ name ∈ ["tls", "insecure", "disabled", "ipv6_disabled"],
      others.flag name = fields.flag name := by
    intro name member
    have agree : fields name = others name := by
      refine same.agree name ?_ ?_ ?_ <;> fin_cases member <;> decide
    simp only [Device.Fields.flag, Device.Fields.given?, agree]
  unfold Device.ofFields at described
  obtain ⟨name, named, described⟩ := ok_of_bind described
  obtain ⟨address, addressed, described⟩ := ok_of_bind described
  obtain ⟨user, used, described⟩ := ok_of_bind described
  obtain ⟨password, secured, described⟩ := ok_of_bind described
  obtain ⟨_, -, described⟩ := ok_of_bind described
  obtain ⟨profile, profiled, described⟩ := ok_of_bind described
  obtain ⟨_, -, described⟩ := ok_of_bind described
  cases described
  rw [← text _ (by decide)] at named addressed used secured profiled
  rw [Device.ofFields, named, addressed, used, secured, ported, profiled, timed, flag _ (by decide),
    flag _ (by decide), flag _ (by decide), flag _ (by decide)]
  exact ⟨_, rfl, rfl⟩

/-- Whether there are problems does not depend on the numbers of devices. -/
theorem problemsOf_unnumbered (isProfile : String → Bool) (devices : List Device) :
    problemsOf isProfile (devices.map unnumbered) = problemsOf isProfile devices := by
  -- Problems are about texts and profiles.
  unfold problemsOf
  rw [List.zipIdx_map, List.flatMap_map]
  rfl

/-- With other numbers devices are the same but for these, and the same ones are disabled. -/
theorem mapM_otherNumbers {items others : List Device.Fields} {devices : List Device}
    (same : List.Forall₂ Device.Fields.OtherNumbers items others)
    (described : items.mapM Device.ofFields = .ok devices) :
    ∃ numbered, others.mapM Device.ofFields = .ok numbered ∧
      numbered.map unnumbered = devices.map unnumbered := by
  -- The induction is on the pairs of devices.
  induction same generalizing devices with
  | nil => exact ⟨devices, described, rfl⟩
  | cons first _ ih =>
    rw [List.mapM_cons] at described
    obtain ⟨device, read, described⟩ := ok_of_bind described
    obtain ⟨rest, later, described⟩ := ok_of_bind described
    cases described
    obtain ⟨other, read', own⟩ := ofFields_otherNumbers first read
    obtain ⟨numbered, later', behind⟩ := ih later
    refine ⟨other :: numbered, ?_, List.cons_eq_cons.mpr ⟨own, behind⟩⟩
    rw [List.mapM_cons, read', later']
    rfl

/-- Devices are accepted with other numbers as well. -/
theorem devicesOf_otherNumbers {isProfile : String → Bool} {items others : List Device.Fields}
    {devices : List Device} (same : List.Forall₂ Device.Fields.OtherNumbers items others)
    (accepted : devicesOf isProfile (items.map some) = .ok devices) :
    ∃ numbered, devicesOf isProfile (others.map some) = .ok numbered := by
  rw [devicesOf_maps] at accepted ⊢
  cases described : items.mapM Device.ofFields with
  | error shape =>
    rw [described] at accepted
    cases accepted
  | ok all =>
    obtain ⟨numbered, described', alike⟩ := mapM_otherNumbers same described
    rw [described] at accepted
    rw [described']
    dsimp only at accepted ⊢
    -- The same devices are disabled, with and without their numbers.
    have enabled : ∀ devices : List Device,
        (devices.filter fun device => !device.disabled).map unnumbered =
          (devices.map unnumbered).filter fun device => !device.disabled := by
      intro devices
      rw [List.filter_map]
      rfl
    rw [← problemsOf_unnumbered, enabled, ← alike, ← enabled, problemsOf_unnumbered] at accepted
    split at accepted
    · rename_i none
      exact ⟨_, if_pos none⟩
    · cases accepted

end Devices

/-! Documents. -/

section Documents

variable {known : List String} {source : Source}

/-- The devices that are loaded have the numbers of those in the document that are not disabled. -/
theorem takenFrom_of_loadSource {config : Config} (loaded : loadSource known source = .ok config) :
    ∃ items, DevicesIn source items ∧
      List.Forall₂ TakenFrom (enabledFields items) config.devices := by
  -- The devices of a draft are made of the enabled ones in the document.
  obtain ⟨draft, ⟨document, entries, read, there, told⟩, made⟩ := loadSource_ok loaded
  refine ⟨draft.devices, ⟨draft.outline, ?_, rfl⟩,
    made.devices.imp fun fields device => takenFrom_of_ofFields⟩
  simp [outlineOf?, read, there, told, Except.toOption]

/-- Whether a document is accepted does not depend on the sizes of the numbers in it. -/
theorem exists_loadSource_iff_otherNumbers {source' : Source} {outline : Outline}
    {items others : List Device.Fields}
    (shows : outlineOf? source = some { outline with devices := .ok (items.map some) })
    (shows' : outlineOf? source' = some { outline with devices := .ok (others.map some) })
    (same : List.Forall₂ Device.Fields.OtherNumbers items others) :
    (∃ config, loadSource known source = .ok config) ↔
      ∃ config, loadSource known source' = .ok config := by
  rw [loadSource_of_outlineOf? known shows, loadSource_of_outlineOf? known shows', ofOutline_devices,
    ofOutline_devices, exists_ok_bind_iff, exists_ok_bind_iff]
  refine exists_congr fun rest => and_congr_right fun _ => ?_
  rw [exists_ok_bind_pure_iff, exists_ok_bind_pure_iff]
  -- The relation goes both ways, so that one direction is enough.
  have back : List.Forall₂ Device.Fields.OtherNumbers others items :=
    same.flip.imp fun _ _ => Device.Fields.OtherNumbers.symm
  exact ⟨fun ⟨_, accepted⟩ => devicesOf_otherNumbers same accepted,
    fun ⟨_, accepted⟩ => devicesOf_otherNumbers back accepted⟩

/-- A number that is none is refused, and in a way that is known if all numbers are numerals. -/
theorem loadSource_refused {outline : Outline} {items : List Device.Fields}
    (shows : outlineOf? source = some outline) (devices : outline.devices = .ok (items.map some))
    (accepts : outline.AcceptsRest known)
    (numerals : ∀ fields ∈ items, ∀ value, fields.GivesNumber value → IsNumeral value)
    {fields : Device.Fields} (member : fields ∈ items) {value : Value}
    (given : fields.GivesNumber value) (none : ∀ n, ¬ StandsFor value n) :
    ∃ shape, loadSource known source = .error (.shape shape) ∧ shape.isForeseen = true := by
  obtain ⟨rest, checked⟩ := acceptsRest_iff.mp accepts
  have whole : outline = { outline with devices := .ok (items.map some) } := by rw [← devices]
  rw [loadSource_of_outlineOf? known shows, whole, ofOutline_devices, checked]
  simp only [Bind.bind, Except.bind, devicesOf_maps]
  cases described : items.mapM Device.ofFields with
  -- All numbers would stand for some.
  | ok devices =>
    have read := exists_ok_of_mem_mapM described member
    obtain ⟨n, stands⟩ := standsFor_of_isReadable (Device.exists_ofFields_iff.mp read) given
    exact absurd stands (none n)
  -- The first fault is that of a text or of a number that is a numeral.
  | error shape =>
    refine ⟨shape, rfl, ?_⟩
    obtain ⟨before, first, after, rfl, -, failed⟩ := mapM_eq_error_iff.mp described
    rcases ofFields_eq_error failed with rfl | ⟨own, inside, refused⟩
    · rfl
    · exact isForeseen_of_isNumeral (numerals first (by simp) own inside) refused

end Documents

end RouterMetrics.Config
