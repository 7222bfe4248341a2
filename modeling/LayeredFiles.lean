import LayeredFiles.Main
import LayeredFiles.Disk.Folder
import LayeredFiles.Json.Write
import LayeredFiles.Settings.File
import LayeredFiles.Proofs.Chain.Resume
import LayeredFiles.Proofs.Generator.Chains
import LayeredFiles.Proofs.Batch.Crew
import LayeredFiles.Proofs.Batch.Independence
import LayeredFiles.Proofs.Batch.Driver
import LayeredFiles.Proofs.Batch.Returns
import LayeredFiles.Proofs.Batch.Outputs
import LayeredFiles.Proofs.Disk.Growth
import LayeredFiles.Proofs.Disk.Refusal
import LayeredFiles.Proofs.Chain.Mark
import LayeredFiles.Proofs.Generator.Create
import LayeredFiles.Proofs.Template.Literal
import LayeredFiles.Proofs.Text.Codec
import LayeredFiles.Proofs.Disk.Reading
import LayeredFiles.Proofs.NormalPath
import LayeredFiles.Proofs.Template.Lookup
import LayeredFiles.Proofs.Generator.Verbatim
import LayeredFiles.Proofs.Number.Rank
import LayeredFiles.Proofs.Number.Shortest
import LayeredFiles.Proofs.Number.Spelling
import LayeredFiles.Proofs.Number.RoundTrip
import LayeredFiles.Proofs.Json.Leaf
import LayeredFiles.Proofs.Json.RoundTrip
import LayeredFiles.Proofs.Settings.RoundTrip
import LayeredFiles.Proofs.CommandLine.Settings
import LayeredFiles.Proofs.Chain.Rerun
import LayeredFiles.Proofs.CommandLine.Ending
import LayeredFiles.Proofs.Chain.Spelling
import LayeredFiles.Proofs.Text.Inverse
import LayeredFiles.Proofs.Generator.Copy
import LayeredFiles.Proofs.Value.Faults
import LayeredFiles.Proofs.Template.Faults
import LayeredFiles.Proofs.Template.Search
import LayeredFiles.Proofs.CommandLine.Messages
import LayeredFiles.Proofs.Generator.Shelf
import LayeredFiles.Proofs.Disk.Below
import LayeredFiles.Proofs.Generator.Source
import LayeredFiles.Proofs.Console.Literal
import LayeredFiles.Proofs.Console.Rows
import LayeredFiles.Proofs.CommandLine.Names
import LayeredFiles.Proofs.CommandLine.Contexts
import LayeredFiles.Proofs.CommandLine.Precedence
import LayeredFiles.Proofs.Console.Message
import LayeredFiles.Proofs.Yaml.Loading
import LayeredFiles.Proofs.Text.Words
import LayeredFiles.Proofs.Template.Listing
