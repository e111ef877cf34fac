import DetectorStream.Batch.Amplify
import DetectorStream.Batch.Basic
import DetectorStream.ByteSize
import DetectorStream.CommandLine.Command
import DetectorStream.CommandLine.Flag
import DetectorStream.CommandLine.Help
import DetectorStream.CommandLine.Program
import DetectorStream.CommandLine.Session
import DetectorStream.CommandLine.Stream
import DetectorStream.CommandLine.Synthesize
import DetectorStream.Compression.Algorithm
import DetectorStream.Compression.Bits
import DetectorStream.Compression.Checksum
import DetectorStream.Compression.Codec
import DetectorStream.Compression.Deflate
import DetectorStream.Compression.Framed
import DetectorStream.Compression.Gzip
import DetectorStream.Compression.Lz4
import DetectorStream.Compression.PrefixCode
import DetectorStream.Compression.Zstd.Entropy
import DetectorStream.Compression.Zstd.Frame
import DetectorStream.Compression.Zstd.Literals
import DetectorStream.Compression.Zstd.Sequences
import DetectorStream.Context
import DetectorStream.Csv
import DetectorStream.Delivery.Connect
import DetectorStream.Delivery.FileSink
import DetectorStream.Delivery.Frame
import DetectorStream.Delivery.Kafka.Producer
import DetectorStream.Delivery.Kafka.Transmitter
import DetectorStream.Delivery.Label
import DetectorStream.Delivery.Nats
import DetectorStream.Delivery.Recorder
import DetectorStream.Delivery.Retry
import DetectorStream.Delivery.Transmitter
import DetectorStream.Delivery.Verify
import DetectorStream.Duration
import DetectorStream.Fault.Basic
import DetectorStream.Fault.Signal
import DetectorStream.Files
import DetectorStream.FlatBuffer.Builder
import DetectorStream.FlatBuffer.Table
import DetectorStream.Flow.Chunk
import DetectorStream.Flow.Controller
import DetectorStream.Generator
import DetectorStream.Json.Reader
import DetectorStream.Json.Value
import DetectorStream.Json.Writer
import DetectorStream.Log.Entry
import DetectorStream.Log.Outputs
import DetectorStream.Log.Style
import DetectorStream.Main
import DetectorStream.MappedFile
import DetectorStream.Metrics.Basic
import DetectorStream.Number.Binary64
import DetectorStream.Number.Decimal
import DetectorStream.Number.FloatReader
import DetectorStream.Number.Shortest
import DetectorStream.Octets.Base64
import DetectorStream.Octets.LittleEndian
import DetectorStream.Octets.Stream
import DetectorStream.Path
import DetectorStream.Pool
import DetectorStream.ProcessVariable.Channel
import DetectorStream.ProcessVariable.Field
import DetectorStream.ProcessVariable.Memory
import DetectorStream.Proofs.Batch.Copying
import DetectorStream.Proofs.Batch.Histories
import DetectorStream.Proofs.Batch.Requests
import DetectorStream.Proofs.Batch.Tiling
import DetectorStream.Proofs.CommandLine.Encode
import DetectorStream.Proofs.CommandLine.Given
import DetectorStream.Proofs.CommandLine.LateRefusal
import DetectorStream.Proofs.CommandLine.Rejected
import DetectorStream.Proofs.Delivery.Appending
import DetectorStream.Proofs.Delivery.Brokers
import DetectorStream.Proofs.Delivery.FileSink
import DetectorStream.Proofs.Delivery.Framing
import DetectorStream.Proofs.Delivery.Numbering
import DetectorStream.Proofs.Delivery.Pauses
import DetectorStream.Proofs.Delivery.ProducerSettings
import DetectorStream.Proofs.Delivery.Retries
import DetectorStream.Proofs.Delivery.ShortWrites
import DetectorStream.Proofs.Delivery.Verification
import DetectorStream.Proofs.Fault.Classification
import DetectorStream.Proofs.Fault.Wrapping
import DetectorStream.Proofs.Files.Keys
import DetectorStream.Proofs.Files.Writing
import DetectorStream.Proofs.FlatBuffer.Bounds
import DetectorStream.Proofs.FlatBuffer.Building
import DetectorStream.Proofs.FlatBuffer.Reading
import DetectorStream.Proofs.Flow.Announced
import DetectorStream.Proofs.Flow.Handout
import DetectorStream.Proofs.Flow.Lifecycle
import DetectorStream.Proofs.Json.Continued
import DetectorStream.Proofs.Json.Length
import DetectorStream.Proofs.Json.Reading
import DetectorStream.Proofs.Log.Outputs
import DetectorStream.Proofs.Number.ByteSize
import DetectorStream.Proofs.Number.Digits
import DetectorStream.Proofs.Number.Numerals
import DetectorStream.Proofs.Number.Whole
import DetectorStream.Proofs.Octets.Reading
import DetectorStream.Proofs.Pool.Lending
import DetectorStream.Proofs.ProcessVariable.Histories
import DetectorStream.Proofs.ProcessVariable.Memory
import DetectorStream.Proofs.Run.Accepted
import DetectorStream.Proofs.Run.Amplified
import DetectorStream.Proofs.Run.Attempts
import DetectorStream.Proofs.Run.Complete
import DetectorStream.Proofs.Run.Course
import DetectorStream.Proofs.Run.Failure
import DetectorStream.Proofs.Run.Filed
import DetectorStream.Proofs.Run.Ledger
import DetectorStream.Proofs.Run.Message
import DetectorStream.Proofs.Run.Offers
import DetectorStream.Proofs.Run.Tampering
import DetectorStream.Proofs.Settings.Layers
import DetectorStream.Proofs.Settings.References
import DetectorStream.Proofs.Settings.Replacement
import DetectorStream.Proofs.Settings.Rules
import DetectorStream.Proofs.Settings.Saved
import DetectorStream.Proofs.Settings.Written
import DetectorStream.Proofs.Source.Acquisition
import DetectorStream.Proofs.Source.Limit
import DetectorStream.Proofs.Source.Lines
import DetectorStream.Proofs.Source.Mapped
import DetectorStream.Proofs.Source.Names
import DetectorStream.Proofs.Source.NevEnding
import DetectorStream.Proofs.Source.NevImage
import DetectorStream.Proofs.Source.Pulses
import DetectorStream.Proofs.Source.Query
import DetectorStream.Proofs.Source.RecordReading
import DetectorStream.Proofs.Source.Records
import DetectorStream.Proofs.Source.Renderings
import DetectorStream.Proofs.Source.RowEvents
import DetectorStream.Proofs.Source.Synthetic
import DetectorStream.Proofs.Source.Trailing
import DetectorStream.Proofs.Source.VastCounts
import DetectorStream.Proofs.Text.Glyphs
import DetectorStream.Proofs.Text.Trimming
import DetectorStream.Proofs.Wire.Alignment
import DetectorStream.Proofs.Wire.FrameLength
import DetectorStream.Proofs.Wire.JsonRoundTrip
import DetectorStream.Proofs.Wire.Layout
import DetectorStream.Proofs.Wire.Received
import DetectorStream.Proofs.Wire.RoundTrip
import DetectorStream.Proofs.Wire.Truncated
import DetectorStream.Proofs.Wire.Untrusted
import DetectorStream.Proofs.Wire.Versions
import DetectorStream.Proofs.Yaml.Spreading
import DetectorStream.Run.Basic
import DetectorStream.Run.Chunk
import DetectorStream.Run.Id
import DetectorStream.Settings.Basic
import DetectorStream.Settings.Document
import DetectorStream.Settings.EnvironmentFile
import DetectorStream.Settings.Field
import DetectorStream.Settings.Flags
import DetectorStream.Settings.Load
import DetectorStream.Settings.Resolve
import DetectorStream.Settings.Substitution
import DetectorStream.Source.Acquire
import DetectorStream.Source.Arrow
import DetectorStream.Source.Avro
import DetectorStream.Source.Avro.Schema
import DetectorStream.Source.Csv
import DetectorStream.Source.Json
import DetectorStream.Source.Load
import DetectorStream.Source.Locator
import DetectorStream.Source.Nev
import DetectorStream.Source.Synth
import DetectorStream.Text.Basic
import DetectorStream.Text.Case
import DetectorStream.Text.Printable
import DetectorStream.Text.Quoted
import DetectorStream.Text.Utf8
import DetectorStream.Trace.Provider
import DetectorStream.Trace.Span
import DetectorStream.Trial
import DetectorStream.Wire.Ev42
import DetectorStream.Wire.Format
import DetectorStream.Wire.JsonMessage
import DetectorStream.Wire.Message
import DetectorStream.Yaml.Cursor
import DetectorStream.Yaml.Lexeme
import DetectorStream.Yaml.Node
import DetectorStream.Yaml.Reader
import DetectorStream.Yaml.Scalar
import DetectorStream.Yaml.Timestamp
import DetectorStream.Yaml.Token
import DetectorStream.Yaml.Writer
