/-! What can go wrong between two ends of a connection. -/

namespace RouterMetrics

/-- A failure of the network, of name resolution or of the encrypted layer. -/
inductive NetworkFault where
  | refused
  | reset
  | brokenPipe
  | unreachable
  | unknownHost
  | timedOut
  | handshake
  | certificate
  | addressInUse
deriving Repr, DecidableEq

/-- The wording of a network failure. -/
def NetworkFault.message : NetworkFault → String
  | .refused => "[Errno 111] Connection refused"
  | .reset => "[Errno 104] Connection reset by peer"
  | .brokenPipe => "[Errno 32] Broken pipe"
  | .unreachable => "[Errno 113] No route to host"
  | .unknownHost => "[Errno -2] Name or service not known"
  | .timedOut => "timed out"
  | .handshake => "handshake failure"
  | .certificate => "certificate verify failed"
  | .addressInUse => "[Errno 98] Address already in use"

end RouterMetrics
