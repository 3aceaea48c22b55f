import BootEnv.Text.Segment
import BootEnv.Text.Quoted
import BootEnv.Cidr
import BootEnv.Host.RouteTable
import BootEnv.Host.Survey
import BootEnv.Environment
import BootEnv.Metadata.Reader
import BootEnv.Yaml.Gap
import BootEnv.Yaml.Scalar.Block
import BootEnv.Yaml.Scalar.Plain
import BootEnv.Yaml.Scalar.Quoted
import BootEnv.Yaml.Token.Basic
import BootEnv.Yaml.Token.Property
import BootEnv.Yaml.Token.Lexer
import BootEnv.Yaml.Document
import BootEnv.Yaml.Kind
import BootEnv.Settings.Basic
import BootEnv.Settings.Reader
import BootEnv.Report.Filter
import BootEnv.Report.Logger
import BootEnv.Report.Log
import BootEnv.Proofs.Scan
import BootEnv.Proofs.Substitution
import BootEnv.Proofs.Rows
import BootEnv.Proofs.Naming
import BootEnv.Proofs.Interface
import BootEnv.Proofs.Build
import BootEnv.Proofs.Projection
import BootEnv.Proofs.Entry
import BootEnv.Proofs.Agreement
import BootEnv.Proofs.Content
import BootEnv.Proofs.Rebuild
import BootEnv.Proofs.Digits
import BootEnv.Proofs.AddressText
import BootEnv.Proofs.AddressReading
import BootEnv.Proofs.CidrReading
import BootEnv.Proofs.Grouping
import BootEnv.Proofs.Hexadecimal
import BootEnv.Proofs.RouteLines
import BootEnv.Proofs.RouteText
import BootEnv.Proofs.JsonText
import BootEnv.Proofs.JsonReading
import BootEnv.Proofs.Members
import BootEnv.Proofs.MetadataText
import BootEnv.Proofs.Sources
import BootEnv.Proofs.DefaultToken
import BootEnv.Proofs.Literal
import BootEnv.Proofs.Writable
import BootEnv.Proofs.Pieces
import BootEnv.Proofs.Merge
import BootEnv.Proofs.Kept
import BootEnv.Proofs.Remerge
import BootEnv.Proofs.Composition
import BootEnv.Proofs.Relevance
import BootEnv.Proofs.Canonical
import BootEnv.Proofs.MetadataForms
import BootEnv.Proofs.UnderRoot
import BootEnv.Proofs.LogHistory
import BootEnv.Proofs.Overrides
import BootEnv.Proofs.Slices
import BootEnv.Proofs.YamlText
import BootEnv.Proofs.YamlTokens
import BootEnv.Proofs.YamlDocument
import BootEnv.Proofs.SettingsText
