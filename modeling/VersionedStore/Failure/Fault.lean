import VersionedStore.Text.Quoted

/-!
Faults that come from below the client or from a caller's own code. Such a
fault has no classification of its own; the faults of an exchange over the
network are the ones that a transport turns into a transport error.
-/

namespace VersionedStore

inductive FaultKind where
  | missingKey
  | badValue
  | brokenState
  | system
  | timedOut
  | badUrl
  | hostName
  | hostNameDirection
  | hostNameCharacter
  | hostNameContext
  | unencodableText
  | network
  | request
  | transport
  | timeout
  | connectTimeout
  | readTimeout
  | writeTimeout
  | poolTimeout
  | connection
  | connectError
  | readError
  | writeError
  | closeError
  | protocol
  | remoteProtocol
  | localProtocol
  | proxy
  | unsupportedProtocol
  | undecodable
  | tooManyRedirects
  | stream
  | cookieConflict
  deriving DecidableEq, Repr

namespace FaultKind

def name : FaultKind → String
  | .missingKey => "KeyError"
  | .badValue => "ValueError"
  | .brokenState => "RuntimeError"
  | .system => "OSError"
  | .timedOut => "TimeoutError"
  | .badUrl => "InvalidURL"
  | .hostName => "IDNAError"
  | .hostNameDirection => "IDNABidiError"
  | .hostNameCharacter => "InvalidCodepoint"
  | .hostNameContext => "InvalidCodepointContext"
  | .unencodableText => "UnicodeEncodeError"
  | .network => "HTTPError"
  | .request => "RequestError"
  | .transport => "TransportError"
  | .timeout => "TimeoutException"
  | .connectTimeout => "ConnectTimeout"
  | .readTimeout => "ReadTimeout"
  | .writeTimeout => "WriteTimeout"
  | .poolTimeout => "PoolTimeout"
  | .connection => "NetworkError"
  | .connectError => "ConnectError"
  | .readError => "ReadError"
  | .writeError => "WriteError"
  | .closeError => "CloseError"
  | .protocol => "ProtocolError"
  | .remoteProtocol => "RemoteProtocolError"
  | .localProtocol => "LocalProtocolError"
  | .proxy => "ProxyError"
  | .unsupportedProtocol => "UnsupportedProtocol"
  | .undecodable => "DecodingError"
  | .tooManyRedirects => "TooManyRedirects"
  | .stream => "StreamError"
  | .cookieConflict => "CookieConflict"

def isTimeout : FaultKind → Bool
  | .timeout | .connectTimeout | .readTimeout | .writeTimeout | .poolTimeout => true
  | _ => false

/-- Whether an exchange over the network failed, in time or not. -/
def isNetwork : FaultKind → Bool
  | .missingKey | .badValue | .brokenState | .system | .timedOut | .badUrl | .hostName
  | .hostNameDirection | .hostNameCharacter | .hostNameContext | .unencodableText | .stream
  | .cookieConflict => false
  | _ => true

end FaultKind

structure Fault where
  kind : FaultKind
  message : String
  deriving DecidableEq, Repr

namespace Fault

/-- A fault in words. A missing key is shown between quotes. -/
def text (f : Fault) : String :=
  if f.kind = .missingKey then Text.quoted f.message else f.message

end Fault

end VersionedStore
