import LoginGate.Http.Uri
import LoginGate.Program
import LoginGate.Telemetry.Metadata
import LoginGate.Url.Address

/-!
# Setting up the export of traces

Traces are exported if an endpoint is given. The setup fails if the headers
cannot be sent, if the endpoint cannot be connected to, or if it is to be
reached over TLS and its host is no name or address that a certificate could
be issued for. Only one protocol is supported, and another choice is ignored.

An endpoint without a scheme is reached over TLS, and the host of an endpoint that
is reached over TLS is what its certificate is verified against.
-/

namespace LoginGate.Telemetry

/-- What the environment says about the export of traces. -/
structure Settings where
  /-- The endpoint, if traces are to be exported. -/
  endpoint : Option String
  /-- The headers. -/
  headers : Option String
  /-- The protocol. -/
  protocol : Option String

/-- Why the export cannot be set up. -/
inductive ExporterError where
  /-- The headers cannot be sent. -/
  | metadata (error : MetadataError)
  /-- The endpoint cannot be connected to. -/
  | uri (endpoint : String) (error : Http.UriError)
  /-- The host cannot be verified. -/
  | serverName
deriving DecidableEq, Repr

/-- The error in words. -/
def ExporterError.message : ExporterError → String
  | .metadata e => e.message
  | .uri endpoint e => "invalid URI " ++ endpoint ++ ". Reason " ++ e.message
  | .serverName => "Reason: transport error"

/-- An export of traces that is set up. -/
structure Exporter where
  /-- The endpoint with its scheme. -/
  endpoint : String
  /-- The host to verify, for an endpoint that is reached over TLS. -/
  tlsDomain : Option String
  /-- What is sent with every export. -/
  metadata : Dictionary String MetadataValue

/-! ### Endpoints -/

/-- Whether an endpoint has a scheme. -/
def hasScheme (endpoint : List Char) : Bool :=
  "http://".toList.isPrefixOf endpoint || "https://".toList.isPrefixOf endpoint

/-- The endpoint with a scheme. One that gets it loses the slashes at its end. -/
def withScheme (endpoint : String) : String :=
  let chars := endpoint.toList
  if hasScheme chars then endpoint
  else "https://" ++ String.ofList (chars.reverse.dropWhile (· == '/')).reverse

/-- The host that the certificate of an endpoint is verified against, if it is
    reached over TLS: what stands before the path and the port. -/
def tlsDomain? (endpoint : String) : Option String := do
  let rest ← Text.after? "https://".toList endpoint.toList
  let host := (rest.takeWhile (· ≠ '/')).takeWhile (· ≠ ':')
  if host.isEmpty then none else some (String.ofList host)

/-! ### Names of servers -/

/-- Whether a character may stand in a label. -/
def isLabelChar (c : Char) : Bool := c.isAlphanum || c == '_' || c == '-'

/-- Whether a text may be a label of a name. -/
def isLabel (label : List Char) : Bool :=
  !label.isEmpty && label.length ≤ 63 && label.all isLabelChar && label.head? != some '-' &&
    label.getLast? != some '-'

/-- Whether a text is the name of a server: labels with dots between them, and a
    dot at the end if one likes, of which the last one is no number. -/
def isDnsName (name : List Char) : Bool :=
  let labels := Text.pieces '.' name
  let labels := if 1 < labels.length ∧ labels.getLast? = some [] then labels.dropLast else labels
  name.length ≤ 253 && labels.all isLabel && labels.getLast?.any fun l => !l.all Char.isDigit

/-- Whether a text is an address of 32 bits with all its bytes. -/
def isPlainAddress (name : List Char) : Bool :=
  let parts := Text.pieces '.' name
  parts.length == 4 && parts.all fun part => (Url.plainByte? part).isSome

/-- Whether a certificate could be issued for a host. -/
def isServerName (host : String) : Bool := isDnsName host.toList || isPlainAddress host.toList

/-! ### Setup -/

/-- What is said about a protocol that is not supported. -/
def protocolLog? (protocol : Option String) : Option LogLine :=
  match protocol with
  | none => none
  | some protocol =>
    if protocol = "grpc" then none
    else some ⟨.debug, "OTEL_EXPORTER_OTLP_PROTOCOL='" ++ protocol ++
      "' ignored: only 'grpc' is supported"⟩

/-- Sets up the export to an endpoint. -/
def Settings.exporterFor (s : Settings) (endpoint : String) : Except ExporterError Exporter := do
  let endpoint := withScheme endpoint
  let headers := (s.headers.map parseHeaders).getD .empty
  let sent ← (metadata headers.entries).mapError .metadata
  (Http.checkUri endpoint).mapError (.uri endpoint)
  let domain := tlsDomain? endpoint
  if !domain.all isServerName then throw .serverName
  return ⟨endpoint, domain, sent⟩

/-- Sets up the export of traces if one is asked for, and tells what is said
    meanwhile. -/
def Settings.exporter (s : Settings) : Except ExporterError (Option Exporter) × List LogLine :=
  match s.endpoint with
  | none => (.ok none, [])
  | some endpoint => ((s.exporterFor endpoint).map some, (protocolLog? s.protocol).toList)

end LoginGate.Telemetry
