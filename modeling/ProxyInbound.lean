import ProxyInbound.Text.Basic
import ProxyInbound.Text.Numeral
import ProxyInbound.Text.Quoted
import ProxyInbound.Entries
import ProxyInbound.Double
import ProxyInbound.Double.Shortest
import ProxyInbound.Json
import ProxyInbound.Json.Printer
import ProxyInbound.Json.Reader
import ProxyInbound.Vocabulary
import ProxyInbound.Json.Lenient
import ProxyInbound.Json.Strict
import ProxyInbound.Json.Record
import ProxyInbound.Form
import ProxyInbound.Header.Map
import ProxyInbound.Header.Rows
import ProxyInbound.Wire.Fields
import ProxyInbound.Wire.Settings
import ProxyInbound.Wire.Sockopt
import ProxyInbound.Wire.Security
import ProxyInbound.Wire.Transport
import ProxyInbound.Wire.Inbound
import ProxyInbound.Event
import ProxyInbound.Conversion
import ProxyInbound.Session
import ProxyInbound.CommandLine
import ProxyInbound.Main
import ProxyInbound.Proofs.Text.Trimming
import ProxyInbound.Proofs.Text.Splitting
import ProxyInbound.Proofs.Text.Numerals
import ProxyInbound.Proofs.Entries
import ProxyInbound.Proofs.Header.Gathering
import ProxyInbound.Proofs.Header.Saved
import ProxyInbound.Proofs.Header.NormalForm
import ProxyInbound.Proofs.Header.Stored
import ProxyInbound.Proofs.Header.Resaved
import ProxyInbound.Proofs.Header.Hosts
import ProxyInbound.Proofs.Header.Merging
import ProxyInbound.Proofs.Header.HostValues
import ProxyInbound.Proofs.Wire.Optional
import ProxyInbound.Proofs.Wire.Settings
import ProxyInbound.Proofs.Wire.Security
import ProxyInbound.Proofs.Wire.Transport
import ProxyInbound.Proofs.ReadBack
import ProxyInbound.Proofs.Reopening.Fields
import ProxyInbound.Proofs.Reopening.Settings
import ProxyInbound.Proofs.Reopening.Security
import ProxyInbound.Proofs.Reopening.Transport
import ProxyInbound.Proofs.Reopening.Hosts
import ProxyInbound.Proofs.Reopening.Form
import ProxyInbound.Proofs.Settled
import ProxyInbound.Proofs.Steadiness.Sections
import ProxyInbound.Proofs.Steadiness.Hosts
import ProxyInbound.Proofs.Wire.Injective
import ProxyInbound.Proofs.Wire.Request
import ProxyInbound.Proofs.Steady
import ProxyInbound.Proofs.KeptHosts
import ProxyInbound.Proofs.Json.Pruned
import ProxyInbound.Proofs.Wire.Pruned
import ProxyInbound.Proofs.Pruned
import ProxyInbound.Proofs.Json.Fields
import ProxyInbound.Proofs.Form.Fields
import ProxyInbound.Proofs.Form.Groups
import ProxyInbound.Proofs.Wire.Keys
import ProxyInbound.Proofs.ActiveFields
import ProxyInbound.Proofs.Form.Frames
import ProxyInbound.Proofs.Sources
import ProxyInbound.Proofs.Json.Written
import ProxyInbound.Proofs.Form.Plain
import ProxyInbound.Proofs.Pipelines
import ProxyInbound.Proofs.Json.Assignments
import ProxyInbound.Proofs.Wire.Assignments
import ProxyInbound.Proofs.Fillings
import ProxyInbound.Proofs.RecordLists
import ProxyInbound.Proofs.Json.Readings
import ProxyInbound.Proofs.Wire.Readings
import ProxyInbound.Proofs.Json.Distinct
import ProxyInbound.Proofs.Json.Nulls
import ProxyInbound.Proofs.Nulls
import ProxyInbound.Proofs.Text.Separators
import ProxyInbound.Proofs.Text.Utf8
import ProxyInbound.Proofs.Header.RowValues
import ProxyInbound.Proofs.Header.Editable
import ProxyInbound.Proofs.Editable
import ProxyInbound.Proofs.Json.Members
import ProxyInbound.Proofs.Form.Members
import ProxyInbound.Proofs.InlineText
import ProxyInbound.Proofs.HostField
import ProxyInbound.Proofs.Json.Spellings
import ProxyInbound.Proofs.Spellings
import ProxyInbound.Proofs.Warnings
import ProxyInbound.Proofs.Text.Grammar
import ProxyInbound.Proofs.Text.Joining
import ProxyInbound.Proofs.Ports
import ProxyInbound.Proofs.Numbers
