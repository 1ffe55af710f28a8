import CosmosRuntime.Go.Basic
import CosmosRuntime.Go.UTF8
import CosmosRuntime.Go.Map
import CosmosRuntime.Go.Json
import CosmosRuntime.Metadata.Store
import CosmosRuntime.Metadata.File
import CosmosRuntime.Metadata.RoundTrip
import CosmosRuntime.Metadata.Flush
import CosmosRuntime.Metadata.Mapping
import CosmosRuntime.Proxmox.Api
import CosmosRuntime.Proxmox.Runtime
import CosmosRuntime.Proxmox.Lifecycle
import CosmosRuntime.Proxmox.Query
import CosmosRuntime.Proxmox.Reachable
import CosmosRuntime.Proxmox.Records
import CosmosRuntime.Proxmox.Inventory
import CosmosRuntime.Proxmox.Allocator
import CosmosRuntime.Proxmox.Panics
import CosmosRuntime.Proxmox.Session
import CosmosRuntime.Proxmox.Identifiers
import CosmosRuntime.Proxmox.Restart
import CosmosRuntime.Proxmox.Requests
import CosmosRuntime.Runtime.Init
