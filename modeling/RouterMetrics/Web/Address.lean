import RouterMetrics.Decimal.Numeral

/-! Listening addresses: a host and a port. -/

namespace RouterMetrics.Web

/-- Where a server listens; the empty host stands for all. -/
structure Address where
  host : String
  port : Int
deriving Repr, DecidableEq

/-- Why a text is no address. -/
inductive AddressFault where
  /-- There is no port after the last colon. -/
  | malformed (text : String)
  /-- The port is written in digits that make no number. -/
  | badPort (fault : Decimal.IntegerFault)
deriving Repr, DecidableEq

/-- The wording of a fault. -/
def AddressFault.message : AddressFault → String
  | malformed text => "invalid listen address: " ++ Text.quoted text
  | badPort fault => fault.message

/-- The texts before and after the last colon. -/
def splitAtLastColon (text : List Char) : Option (List Char × List Char) :=
  let port := (text.reverse.takeWhile (· != ':')).reverse
  let before := text.take (text.length - port.length)
  if before.isEmpty then none else some (before.dropLast, port)

/-- The address that a text denotes; brackets around the host are left out. -/
def Address.read (text : String) : Except AddressFault Address :=
  match splitAtLastColon text.toList with
  | none => .error (.malformed text)
  | some (host, port) =>
      if port.isEmpty || !port.all Text.isDigit then .error (.malformed text)
      else
        match Decimal.readInteger (String.ofList port) with
        | .error fault => .error (.badPort fault)
        | .ok port =>
            let host := Text.trimWhile (fun c => c == '[' || c == ']') host
            .ok ⟨String.ofList host, port⟩

end RouterMetrics.Web
